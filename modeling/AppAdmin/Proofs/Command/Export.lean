import AppAdmin.Proofs.Command.Protocol
import AppAdmin.Proofs.Disk

/-!
What an export leaves on the disk. The only path that is opened is that of the file name put behind
the output folder, and only if the name is that of a file. Before that nothing is changed; behind it,
the file holds what has arrived of the archive, be that all of it or not.
-/

namespace AppAdmin.Command

open Client (Answers getting)
open Disk (IsFileName)

variable {ν : Type}

/-! ### Saving an archive -/

namespace Action

theorem archivePath_eq_ok_iff {folder name path : String} :
    archivePath folder name = .ok path ↔ IsFileName name ∧ path = Disk.join folder name := by
  rw [archivePath, ← Disk.lastName?_eq_self_iff]
  cases Disk.lastName? name with
  | none => simp
  | some last =>
      by_cases hlast : last = name
      · simp [hlast, eq_comm]
      · simp [hlast]

theorem archivePath_of_not {folder name : String} (h : ¬IsFileName name) :
    archivePath folder name = .error (.unsafeFilename name) := by
  rw [← Disk.lastName?_eq_self_iff] at h
  rw [archivePath]
  cases hlast : Disk.lastName? name with
  | none => rfl
  | some last =>
      rw [hlast, Option.some.injEq] at h
      simp [h]

/-- The line that tells of a saved archive. -/
def savedLine (path : String) (bytes : Bytes) : String :=
  path ++ " (" ++ toString bytes.length ++ " bytes)"

/-- How the saving of an archive ends. -/
inductive Saves (folder : String) (exported : ExportedApp) (p : Progress ν) :
    Except Failure Unit → Progress ν → Prop
  /-- A name that might lead out of the folder is refused. -/
  | refused {x : Exchange (Line ν)} (name : ¬IsFileName exported.filename) :
      Saves folder exported p (.error (.unsafeFilename exported.filename)) { p with exchange := x }
  | notCreated {path : String} {fault : Disk.Fault} {x : Exchange (Line ν)}
      (path_eq : archivePath folder exported.filename = .ok path)
      (write : p.disk.write path [] = .error fault) :
      Saves folder exported p (.error (.notCreated path fault)) { p with exchange := x }
  /-- The archive breaks off behind the opening of its file, which keeps what has arrived. -/
  | brokenOff {path : String} {f : ReadFailure} {disk : Disk} {x : Exchange (Line ν)}
      (path_eq : archivePath folder exported.filename = .ok path)
      (read : exported.archive.body.read = .error f)
      (write : p.disk.write path exported.archive.body.arrived = .ok disk) :
      Saves folder exported p (.error (.notWritten path f))
        { p with exchange := x, disk := disk, opened := p.opened ++ [path] }
  | saved {path : String} {bytes : Bytes} {disk : Disk} {x : Exchange (Line ν)}
      (path_eq : archivePath folder exported.filename = .ok path)
      (read : exported.archive.body.read = .ok bytes)
      (write : p.disk.write path bytes = .ok disk) :
      Saves folder exported p (.ok ())
        { exchange := x, disk := disk, opened := p.opened ++ [path],
          printed := p.printed ++ savedLine path bytes ++ "\n" }

theorem outcome_modify_bind {α : Type} (change : Progress ν → Progress ν)
    (next : Unit → Action ν α) (p : Progress ν) :
    outcome (modify change >>= next) p = outcome (next ()) (change p) :=
  rfl

theorem outcome_writeFile (path : String) (bytes : Bytes) (p : Progress ν) :
    outcome (writeFile path bytes) p =
      match p.disk.write path bytes with
      | .ok disk => (.ok (), { p with disk := disk })
      | .error fault => (.error (.notCreated path fault), p) := by
  rw [writeFile, outcome_get_bind, outcome_ofExcept_bind]
  cases p.disk.write path bytes <;> rfl

/-- What is done once the file is open. -/
theorem outcome_fill {path : String} {disk : Disk} (body : OpenBody) (p : Progress ν)
    (hwrite : p.disk.write path body.body.arrived = .ok disk) :
    outcome (do
      let result ← converse (Conversation.readAll body)
      writeFile path body.body.arrived
      let bytes ← ofExcept (.notWritten path) result
      printLine (path ++ " (" ++ toString bytes.length ++ " bytes)")) p =
    let q := { p with exchange := p.exchange.noted (.closed body.number), disk := disk }
    match body.body.read with
    | .ok bytes => (.ok (), { q with printed := p.printed ++ savedLine path bytes ++ "\n" })
    | .error f => (.error (.notWritten path f), q) := by
  have hread : outcome (converse (Conversation.readAll body)) p =
      (.ok body.body.read, { p with exchange := p.exchange.noted (.closed body.number) }) := rfl
  rw [outcome_bind, hread]
  dsimp only
  rw [outcome_bind, outcome_writeFile, hwrite]
  dsimp only
  rw [outcome_ofExcept_bind]
  cases body.body.read <;> rfl

theorem saveArchive_saves (folder : String) (exported : ExportedApp) (p : Progress ν) :
    Saves folder exported p (outcome (saveArchive folder exported) p).1
      (outcome (saveArchive folder exported) p).2 := by
  by_cases hname : IsFileName exported.filename
  · have hpath : archivePath folder exported.filename = .ok (Disk.join folder exported.filename) :=
      archivePath_eq_ok_iff.mpr ⟨hname, rfl⟩
    rw [saveArchive, hpath]
    dsimp only
    rw [outcome_get_bind]
    cases hwrite : p.disk.write (Disk.join folder exported.filename) [] with
    | error fault => exact .notCreated hpath hwrite
    | ok opened =>
        -- the file is written twice: empty when it is opened, and with what has arrived
        obtain ⟨disk, hdisk⟩ := Disk.exists_write hwrite exported.archive.body.arrived
        set path := Disk.join folder exported.filename
        have hagain := (Disk.write_write hwrite _).trans hdisk
        have hfill := outcome_fill exported.archive
          { p with disk := opened, opened := p.opened ++ [path] } hagain
        dsimp only
        rw [outcome_modify_bind, hfill]
        cases hread : exported.archive.body.read with
        | error f => exact .brokenOff hpath hread hdisk
        | ok bytes =>
            rw [Body.arrived_of_read hread] at hdisk
            exact .saved hpath hread hdisk
  · rw [saveArchive, archivePath_of_not hname]
    exact .refused hname

/-! ### What the service offers -/

/-- What is done before an archive is saved. -/
def fetchArchive (platform : Settings.Platform) (network : Network ν) (env : Settings.Environment)
    (i : Invocation) : Action ν ExportedApp := do
  let connection ← connect platform network env i
  let app ← operate (Client.fetchApp (connection.transport network) i.appId)
  operate (Client.exportApp (connection.transport network) app.groupId app.id)

theorem invoke_eq_of_export {i : Invocation} (h : i.task = .exportApp)
    (platform : Settings.Platform) (network : Network ν) (env : Settings.Environment) :
    invoke platform network env i
      = fetchArchive platform network env i >>= saveArchive i.output := by
  simp only [invoke, perform, h, fetchArchive, bind_assoc]

/-- An archive that is offered: within the session that the login opens, the app is found, and its
export is answered with a file name. -/
inductive Offers (platform : Settings.Platform) (network : Network ν) (env : Settings.Environment)
    (i : Invocation) (disk : Disk) (line : Line ν) : ExportedApp → Prop
  | answered {connection : Connection} {login : Request} {session : Session}
      {asked : List String} {app : App} {reply : Reply} {filename : String} {number : Nat}
      (ready : Ready platform disk env i connection login)
      (opens : Answers Session.read (connection.transport network login line).1 session)
      (seeks : Seeks ((connection.withToken session.accessToken).transport network) i.appId
        (connection.transport network login line).2 asked (.ok app))
      (answer : ((connection.withToken session.accessToken).transport network
        (getting (.exportApp app.groupId app.id))
        (((connection.withToken session.accessToken).transport network).advance
          (searchRequests asked) (connection.transport network login line).2)).1 = .ok reply)
      (status : reply.status = .ok)
      (named : Client.announcedFilename reply.headers = .ok filename) :
      Offers platform network env i disk line ⟨filename, ⟨number, reply.body⟩⟩

/-- Until the archive is saved, nothing is changed but the exchange. -/
theorem outcome_fetchArchive (platform : Settings.Platform) (network : Network ν)
    (env : Settings.Environment) (i : Invocation) (p : Progress ν) :
    ∃ result x,
      outcome (fetchArchive platform network env i) p = (result, { p with exchange := x }) ∧
      ∀ exported, result = .ok exported →
        Offers platform network env i p.disk p.exchange.service exported := by
  rcases outcome_search_bind platform network env i p fun connection app =>
      operate (Client.exportApp (connection.transport network) app.groupId app.id) with
    ⟨failure, x, hended⟩ |
      ⟨connection, login, session, asked, app, x, hready, hopens, hseeks, hservice, hended⟩
  · exact ⟨_, x, hended, nofun⟩
  · rw [outcome_operate] at hended
    refine ⟨_, _, hended, ?_⟩
    intro exported hexported
    rw [Client.outcome_exportApp, hservice] at hexported
    cases hmeaning : Transport.meaning (Reply.exported x.handed)
        (((connection.withToken session.accessToken).transport network)
          (getting (.exportApp app.groupId app.id))
          (((connection.withToken session.accessToken).transport network).advance
            (searchRequests asked) (connection.transport network login p.exchange.service).2)).1 with
    | error e =>
        rw [hmeaning] at hexported
        cases hexported
    | ok found =>
        rw [hmeaning] at hexported
        cases hexported
        obtain ⟨reply, filename, hanswer, hstatus, hnamed, rfl⟩ := Client.exported_eq_ok hmeaning
        exact .answered hready hopens hseeks hanswer hstatus hnamed

end Action

/-! ### Runs -/

open AppAdmin.Command.Action (Offers Saves archivePath fetchArchive)

/-- How the export of an app ends: with nothing to be saved, or as the saving ends. -/
inductive Exports (platform : Settings.Platform) (network : Network ν) (state : ν) (disk : Disk)
    (env : Settings.Environment) (i : Invocation) : Except Failure Unit → Progress ν → Prop
  | unoffered {failure : Failure} {x : Exchange (Line ν)}
      (fetched : (Action.outcome (fetchArchive platform network env i) (.start state disk)).1
        = .error failure) :
      Exports platform network state disk env i (.error failure) ⟨x, disk, [], ""⟩
  | offered {exported : ExportedApp} {x : Exchange (Line ν)} {result : Except Failure Unit}
      {q : Progress ν}
      (fetched : (Action.outcome (fetchArchive platform network env i) (.start state disk)).1
        = .ok exported)
      (offers : Offers platform network env i disk ⟨state, []⟩ exported)
      (saves : Saves i.output exported ⟨x, disk, [], ""⟩ result q) :
      Exports platform network state disk env i result q

theorem run_exports (platform : Settings.Platform) (network : Network ν) (state : ν) (disk : Disk)
    {env : Settings.Environment} {args : List String} {i : Invocation}
    (hread : Invocation.read env args = .ok i) (htask : i.task = .exportApp) :
    ∃ result q, Exports platform network state disk env i result q ∧
      run platform network state disk env args = .ofEnd (result, q) := by
  obtain ⟨fetched, x, hfetch, hoffers⟩ :=
    Action.outcome_fetchArchive platform network env i (.start state disk)
  have hfetched := congrArg Prod.fst hfetch
  rw [run_of_read platform network state disk hread, Action.invoke_eq_of_export htask,
    Action.outcome_bind, hfetch]
  cases fetched with
  | error failure => exact ⟨_, _, .unoffered hfetched, rfl⟩
  | ok exported =>
      have hsaves := Action.saveArchive_saves i.output exported ⟨x, disk, [], ""⟩
      exact ⟨_, _, .offered hfetched (hoffers exported rfl) hsaves, rfl⟩

/-- A run that fails and has changed nothing. -/
structure Outcome.Untouched (outcome : Outcome ν) (disk : Disk) : Prop where
  exitCode : outcome.exitCode = 1
  opened : outcome.progress.opened = []
  disk : outcome.progress.disk = disk

/-- A run that has opened the path of an archive, and nothing else, and left some bytes there. -/
structure Outcome.Leaves (outcome : Outcome ν) (disk : Disk) (folder name path : String)
    (bytes : Bytes) : Prop where
  named : archivePath folder name = .ok path
  opened : outcome.progress.opened = [path]
  /-- The place is in the folder. -/
  writes : ∃ l, disk.resolve folder = .ok l ∧
    disk.Writes path bytes outcome.progress.disk (l ++ [name])

theorem leaves_of_write {outcome : Outcome ν} {disk : Disk} {folder name path : String}
    {bytes : Bytes} (hpath : archivePath folder name = .ok path)
    (hopened : outcome.progress.opened = [path])
    (hwrite : disk.write path bytes = .ok outcome.progress.disk) :
    outcome.Leaves disk folder name path bytes := by
  obtain ⟨hname, rfl⟩ := Action.archivePath_eq_ok_iff.mp hpath
  obtain ⟨place, hwrites⟩ := Disk.exists_writes hwrite
  obtain ⟨l, hl, -, rfl⟩ := hname.resolve_join hwrites.found
  exact ⟨hpath, hopened, l, hl, hwrites⟩

/-- A run that is to export an app changes nothing, or leaves what came before the archive broke
off, or leaves the archive. -/
theorem export_ends (platform : Settings.Platform) (network : Network ν) (state : ν) (disk : Disk)
    {env : Settings.Environment} {args : List String} {i : Invocation}
    (hread : Invocation.read env args = .ok i) (htask : i.task = .exportApp) :
    let outcome := run platform network state disk env args
    outcome.Untouched disk ∨ ∃ exported path,
      Offers platform network env i disk ⟨state, []⟩ exported ∧
      ((∃ f, exported.archive.body.read = .error f ∧
          outcome.Leaves disk i.output exported.filename path exported.archive.body.arrived ∧
          outcome.exitCode = 1 ∧ outcome.errors = (Failure.notWritten path f).report) ∨
        ∃ bytes, exported.archive.body.read = .ok bytes ∧
          outcome.Leaves disk i.output exported.filename path bytes ∧
          outcome.exitCode = 0 ∧ outcome.output = Action.savedLine path bytes ++ "\n") := by
  intro outcome
  obtain ⟨result, q, hexports, hrun⟩ := run_exports platform network state disk hread htask
  have houtcome : outcome = .ofEnd (result, q) := hrun
  rw [houtcome]
  cases hexports with
  | unoffered fetched => exact .inl ⟨rfl, rfl, rfl⟩
  | offered fetched offers saves =>
      cases saves with
      | refused name => exact .inl ⟨rfl, rfl, rfl⟩
      | notCreated path_eq write => exact .inl ⟨rfl, rfl, rfl⟩
      | brokenOff path_eq read write =>
          exact .inr ⟨_, _, offers, .inl ⟨_, read, leaves_of_write path_eq rfl write, rfl, rfl⟩⟩
      | saved path_eq read write =>
          refine .inr ⟨_, _, offers, .inr ⟨_, read, leaves_of_write path_eq rfl write, rfl, ?_⟩⟩
          exact congrArg (· ++ "\n") String.empty_append

/-- A name that is not that of a file ends the run. -/
theorem export_refused (platform : Settings.Platform) (network : Network ν) (state : ν)
    (disk : Disk) {env : Settings.Environment} {args : List String} {i : Invocation}
    {exported : ExportedApp} (hread : Invocation.read env args = .ok i)
    (htask : i.task = .exportApp)
    (hfetched : (Action.outcome (fetchArchive platform network env i) (.start state disk)).1
      = .ok exported) (hname : ¬IsFileName exported.filename) :
    let outcome := run platform network state disk env args
    outcome.Untouched disk ∧
      outcome.errors = (Failure.unsafeFilename exported.filename).report := by
  intro outcome
  obtain ⟨result, q, hexports, hrun⟩ := run_exports platform network state disk hread htask
  have houtcome : outcome = .ofEnd (result, q) := hrun
  rw [houtcome]
  cases hexports with
  | unoffered fetched =>
      rw [hfetched] at fetched
      cases fetched
  | offered fetched offers saves =>
      rw [hfetched] at fetched
      cases fetched
      cases saves with
      | refused name => exact ⟨⟨rfl, rfl, rfl⟩, rfl⟩
      | notCreated path_eq _ | brokenOff path_eq _ _ | saved path_eq _ _ =>
          exact absurd (Action.archivePath_eq_ok_iff.mp path_eq).1 hname

/-- The path of an archive is a file name put behind the folder, and there is none for any other
name. A run that is to export an app opens no path but that of the name which the service gives, and
fails without a change if there is none. -/
theorem run_opens_only_archive (platform : Settings.Platform) (network : Network ν) (state : ν)
    (disk : Disk) (env : Settings.Environment) (args : List String) :
    (∀ folder name,
      ((∃ path, archivePath folder name = .ok path) ↔
        name ≠ "" ∧ '/' ∉ name.toList ∧ name ≠ "." ∧ name ≠ "..") ∧
      ∀ path, archivePath folder name = .ok path →
        path = Disk.join folder name ∧ Disk.parts path = Disk.parts folder ++ [.name name]) ∧
    ∀ i, Invocation.read env args = .ok i → i.task = .exportApp →
      let outcome := run platform network state disk env args
      (outcome.Untouched disk ∨ ∃ exported path bytes,
        Offers platform network env i disk ⟨state, []⟩ exported ∧
          outcome.Leaves disk i.output exported.filename path bytes) ∧
      ∀ exported, (Action.outcome (fetchArchive platform network env i) (.start state disk)).1
          = .ok exported →
        (∀ path, archivePath i.output exported.filename ≠ .ok path) → outcome.Untouched disk ∧
          outcome.errors = (Failure.unsafeFilename exported.filename).report := by
  refine ⟨fun folder name => ⟨⟨?_, ?_⟩, ?_⟩, fun i hread htask => ⟨?_, ?_⟩⟩
  · rintro ⟨path, hpath⟩
    obtain ⟨hname, -⟩ := Action.archivePath_eq_ok_iff.mp hpath
    exact ⟨hname.ne_empty, hname.unslashed, hname.ne_here, hname.ne_up⟩
  · rintro ⟨hempty, hslash, hhere, hup⟩
    exact ⟨_, Action.archivePath_eq_ok_iff.mpr ⟨⟨hempty, hslash, hhere, hup⟩, rfl⟩⟩
  · intro path hpath
    obtain ⟨hname, rfl⟩ := Action.archivePath_eq_ok_iff.mp hpath
    exact ⟨rfl, hname.parts_join folder⟩
  · obtain huntouched | ⟨exported, path, hoffers, ⟨f, -, hleaves, -⟩ | ⟨bytes, -, hleaves, -⟩⟩ :=
      export_ends platform network state disk hread htask
    · exact .inl huntouched
    · exact .inr ⟨exported, path, _, hoffers, hleaves⟩
    · exact .inr ⟨exported, path, bytes, hoffers, hleaves⟩
  · intro exported hfetched hno
    refine export_refused platform network state disk hread htask hfetched fun hname => ?_
    exact hno _ (Action.archivePath_eq_ok_iff.mpr ⟨hname, rfl⟩)

/-- A command line that is not run changes nothing. An export that fails changes nothing either,
unless the archive broke off behind the opening of its file, which then holds what had come. An
export that succeeds leaves the whole archive, and tells its length. -/
theorem run_keeps_disk_or_saves (platform : Settings.Platform) (network : Network ν) (state : ν)
    (disk : Disk) (env : Settings.Environment) (args : List String) :
    let outcome := run platform network state disk env args
    (∀ stop, Invocation.read env args = .error stop → outcome.progress.disk = disk) ∧
    ∀ i, Invocation.read env args = .ok i → i.task = .exportApp →
      (outcome.exitCode ≠ 0 → outcome.progress.disk = disk ∨ ∃ exported path f kept,
        Offers platform network env i disk ⟨state, []⟩ exported ∧
          exported.archive.body.read = .error f ∧ kept <+: exported.archive.body.arrived ∧
          outcome.Leaves disk i.output exported.filename path kept ∧
          outcome.errors = (Failure.notWritten path f).report) ∧
      (outcome.exitCode = 0 → ∃ exported path bytes,
        Offers platform network env i disk ⟨state, []⟩ exported ∧
          exported.archive.body.read = .ok bytes ∧
          outcome.Leaves disk i.output exported.filename path bytes ∧
          outcome.output = path ++ " (" ++ toString bytes.length ++ " bytes)\n") := by
  intro outcome
  refine ⟨?_, fun i hread htask => ?_⟩
  · intro stop hread
    simp only [outcome, run, hread]
    cases stop <;> rfl
  · obtain huntouched | ⟨exported, path, hoffers, ⟨f, hbody, hleaves, hcode, herrors⟩ |
        ⟨bytes, hbody, hleaves, hcode, houtput⟩⟩ :=
      export_ends platform network state disk hread htask
    · refine ⟨fun _ => .inl huntouched.disk, fun hcode => ?_⟩
      rw [huntouched.exitCode] at hcode
      cases hcode
    · refine ⟨fun _ => .inr ⟨exported, path, f, _, hoffers, hbody, List.prefix_refl _, hleaves,
        herrors⟩, fun hzero => ?_⟩
      cases hcode.symm.trans hzero
    · refine ⟨fun hne => absurd hcode hne, fun _ => ⟨exported, path, bytes, hoffers, hbody,
        hleaves, ?_⟩⟩
      exact houtput.trans (String.append_assoc ..)

/-- A reply that answers with a text. -/
def replyWith (text : String) : Reply := ⟨.ok, .empty, [.piece (Text.Utf8.encode text)]⟩

/-- Replies to all requests of an export, the last of which is answered with an archive. -/
def repliesTo (archive : Body) : List Reply :=
  [replyWith "\x7b\"access_token\":\"t\"\x7d",
    replyWith "\x7b\"roles\":[\x7b\"group_id\":\"g\"\x7d]\x7d",
    replyWith "[\x7b\"_id\":\"i\",\"client_app_id\":\"x\",\"group_id\":\"g\"\x7d]",
    ⟨.ok, Headers.empty.insert "Content-Disposition" "attachment; filename=app.zip", archive⟩]

def exportLine : List String := ["export", "--app-id", "x", "--username", "u", "--api-key", "k"]

/-- An export over these replies, in a folder without files. -/
def exportOf (archive : Body) : Outcome Network.Mailbox :=
  run (.bare none) Network.ofMailbox ⟨(repliesTo archive).map .ok, none⟩ ⟨["home"], [], []⟩ []
    exportLine

example : (exportOf [.piece [0x50], .piece [0x4B]]).output = "./app.zip (2 bytes)\n" := by
  decide +kernel

/-- The archive breaks off behind two bytes. -/
def brokenBody : Body := [.piece [0x50, 0x4B], .failure ⟨"Other", "error decoding response body"⟩]

theorem exportOf_brokenBody : (exportOf brokenBody).exitCode = 1 ∧
    (exportOf brokenBody).progress.disk.files = [(["home", "app.zip"], [0x50, 0x4B])] := by
  decide +kernel

/-- Two bytes of an archive stay behind a failure. -/
theorem broken_archive_stays :
    ¬ ∀ (network : Network Network.Mailbox) (state : Network.Mailbox) (disk : Disk)
      (env : Settings.Environment) (args : List String) (i : Invocation),
      Invocation.read env args = .ok i → i.task = .exportApp →
        (run (.bare none) network state disk env args).exitCode ≠ 0 →
          (run (.bare none) network state disk env args).progress.disk = disk := by
  intro h
  have hread : Invocation.read [] exportLine =
      .ok ⟨none, some "u", some "k", .exportApp, "x", ".", "", "merge"⟩ := by decide +kernel
  have hkept := h Network.ofMailbox ⟨(repliesTo brokenBody).map .ok, none⟩ ⟨["home"], [], []⟩ []
    exportLine _ hread rfl
  rw [← exportOf, exportOf_brokenBody.1] at hkept
  have hfiles := exportOf_brokenBody.2
  rw [hkept (by decide)] at hfiles
  cases hfiles

end AppAdmin.Command
