import AppAdmin.Command.Run
import AppAdmin.Message.Wire
import Std.Async

/-!
The program. It looks at the files that a command line names, runs the command, carries its messages
over the network one at a time, and writes the files that the command has opened.
-/

namespace AppAdmin.Main

open Command (Invocation)
open Settings (Environment Platform)
open Std.Async (Async)

/-- A name and a value from a text with an equals sign between them. -/
def variableOf (s : String) : String × String :=
  (String.ofList (s.toList.takeWhile (· != '=')),
    String.ofList ((s.toList.dropWhile (· != '=')).drop 1))

def environment : IO Environment := do
  let text := Text.Utf8.decodeLossy (← IO.FS.readBinFile "/proc/self/environ").toList
  return ((text.splitOn "\x00").filter (· != "")).map variableOf

/-- The home folder of the account that the program runs under: the last but one field of its line
among the accounts. -/
def accountHome? : IO (Option String) := do
  let textIn (path : String) : IO String :=
    (do return Text.Utf8.decodeLossy (← IO.FS.readBinFile path).toList) <|> pure ""
  let status ← textIn "/proc/self/status"
  let accounts ← textIn "/etc/passwd"
  let words := ((status.splitOn "\n").map (·.splitOn "\t")).find? (·.head? == some "Uid:")
  let number := words.bind (·[1]?)
  let fields := ((accounts.splitOn "\n").map (·.splitOn ":")).find? fun account =>
    number.isSome && account[2]? == number
  return (fields.bind (·[5]?)).filter (· != "")

def pathOf (l : Location) : String := "/" ++ String.intercalate "/" l

/-- Adds what is found on the way to a location; `here` is how far the way has been gone. -/
def lookAlong (disk : Disk) (here : Location) : Location → IO Disk
  | [] => return disk
  | ".." :: rest => lookAlong disk here.dropLast rest
  | name :: rest => do
    let here := here ++ [name]
    let path ← (some <$> IO.FS.realPath (pathOf here)) <|> pure none
    match path with
    | none => return disk
    | some path =>
      if ← path.isDir then lookAlong { disk with folders := disk.folders ++ [here] } here rest
      else
        let bytes ← IO.FS.readBinFile path <|> pure .empty
        return { disk with files := disk.files ++ [(here, bytes.toList)] }

/-- Adds the names of what a folder holds. -/
def lookInto (disk : Disk) (folder : String) : IO Disk := do
  match disk.resolve folder with
  | .error _ => return disk
  | .ok l =>
    let mut disk := disk
    if disk.folders.contains l then
      for entry in ← (← IO.FS.realPath (pathOf l)).readDir do
        let here := l ++ [entry.fileName]
        if ← entry.path.isDir then disk := { disk with folders := disk.folders ++ [here] }
        else if (disk.file? here).isNone then
          disk := { disk with files := disk.files ++ [(here, [])] }
    return disk

/-- The files that an invocation may read. -/
def filesToRead (platform : Platform) (env : Environment) (i : Invocation) : List String :=
  let settings := (i.config.or (Settings.userFile? platform env)).toList
  let guesses (path : String) := platform.ends.map fun (e, _) => path ++ "." ++ e
  settings ++ settings.flatMap guesses ++ (if i.path = "" then [] else [i.path])

/-- The part of the disk that a command line has to do with. -/
def surroundings (platform : Platform) (env : Environment) (args : List String) : IO Disk := do
  let disk : Disk := ⟨Disk.namesOf (← IO.currentDir).toString, [], []⟩
  match Invocation.read env args with
  | .error _ => return disk
  | .ok i =>
    let mut disk := disk
    for path in filesToRead platform env i do
      disk ← lookAlong disk [] (disk.locate path)
    disk ← lookAlong disk [] (disk.locate i.output)
    lookInto disk i.output

/-- Waits for something, but not longer than some seconds. -/
def within {α : Type} (seconds : Nat) (action : Async α) : Async (Option α) :=
  Async.race (some <$> action) (do
    Std.Async.sleep (.ofNat (seconds * 1000))
    return none)

/-- Reads all that comes, unless it stays away too long. -/
partial def receive (socket : Std.Async.TCP.Socket.Client) (patience : Nat) (bytes : ByteArray) :
    Async (Option ByteArray) := do
  match ← within patience (socket.recv? 65536) with
  | none => return none
  | some none => return some bytes
  | some (some more) => receive socket patience (bytes ++ more)

/-- Opens a wire to the first address that answers. -/
def connect (port : UInt16) : List Std.Net.IPAddr → Async (Option Std.Async.TCP.Socket.Client)
  | [] => return none
  | address :: rest => do
    let socket ← Std.Async.TCP.Socket.Client.mk
    try
      match address with
      | .v4 a => socket.connect (.v4 ⟨a, port⟩)
      | .v6 a => socket.connect (.v6 ⟨a, port⟩)
      return some socket
    catch _ => connect port rest

def addresses (host : Url.Host) : Async (List Std.Net.IPAddr) := do
  let name := String.ofList (match host with
    | .ipv6 a => a.text
    | host => host.text)
  return (← Std.Async.DNS.getAddrInfo name "").toList

/-- Carries a message over a wire of its own. -/
def carry (m : Message) (socket : Std.Async.TCP.Socket.Client) :
    Async (Except Network.Fault Reply) := do
  try
    socket.send ⟨m.toWire.toArray⟩
    match ← receive socket m.patience .empty with
    | none => return .error .timedOut
    | some bytes => match Reply.ofWire? bytes.toList with
      | some reply => return .ok reply
      | none => return .error .broken
  catch _ => return .error .broken

/-- Delivers a message. Nothing is encrypted, so that only plain URLs can be reached. -/
def deliver (m : Message) : IO (Except Network.Failure Reply) := do
  let failed (fault : Network.Fault) : Except Network.Failure Reply := .error ⟨fault, m.url⟩
  match m.url.authority, m.url.scheme == "http".toList with
  | some authority, true =>
    let port := UInt16.ofNat (authority.port.getD 80)
    let socket ← (within m.patience (do connect port (← addresses authority.host))).block
      <|> pure (some none)
    match socket with
    | none => return failed .timedOut
    | some none => return failed .unreachable
    | some (some socket) => return (← (carry m socket).block).mapError fun fault => ⟨fault, m.url⟩
  | _, _ => return failed .unreachable

/-- Runs a command line with the replies so far, and again with one more as long as a message waits
for its reply. -/
partial def converse (platform : Platform) (env : Environment) (args : List String) (disk : Disk)
    (replies : List (Except Network.Failure Reply)) : IO (Command.Outcome Network.Mailbox) := do
  let outcome := Command.run platform Network.ofMailbox ⟨replies, none⟩ disk env args
  match outcome.progress.exchange.service.network.waiting with
  | none => return outcome
  | some m => converse platform env args disk (replies ++ [← deliver m])

end AppAdmin.Main

/-- Runs the command line and returns the exit code. There are no readers here for settings files in
other formats than TOML and JSON, so these are refused. -/
def main (args : List String) : IO UInt32 := do
  let env ← AppAdmin.Main.environment
  let platform := .bare (← AppAdmin.Main.accountHome?)
  let disk ← AppAdmin.Main.surroundings platform env args
  let outcome ← AppAdmin.Main.converse platform env args disk []
  for path in outcome.progress.opened do
    if let .ok bytes := outcome.progress.disk.read path then
      IO.FS.writeBinFile path ⟨bytes.toArray⟩
  (← IO.getStdout).putStr outcome.output
  (← IO.getStderr).putStr outcome.errors
  return UInt32.ofNat outcome.exitCode
