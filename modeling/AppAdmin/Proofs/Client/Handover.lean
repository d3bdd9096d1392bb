import AppAdmin.Proofs.Client.Arrival
import AppAdmin.Proofs.Disposition.Faults

/-!
What an export hands over. The first `Content-Disposition` field decides: if it can be parsed and has a
file name that is not empty, the name is handed over along with the body, which is still open and of which
nothing has been read. Otherwise the fault of the field is reported and the body plays no part.
-/

namespace AppAdmin

open Text (Blank)

/-- A header value of white space has no kind. -/
theorem Disposition.parse_of_blank {header : String} (h : Blank header.toList) :
    parse header = .error .noMediaType := by
  have hblank : Blank (header.toList.takeWhile (· != ';')) :=
    fun c hc => h c (List.takeWhile_subset _ hc)
  have hkind : kindPart header = [] := by
    rw [kindPart, Text.trim, Text.trimStart_eq_nil_iff.mpr hblank]
    rfl
  apply parse_of_kindFault
  rw [hkind]
  exact .noMediaType .nil

theorem Disposition.filename?_eq_some_iff {d : Disposition} {name : String} :
    d.filename? = some name ↔ d.param? "filename" = some name ∧ name ≠ "" := by
  rw [filename?, Option.filter_eq_some_iff, decide_eq_true_eq]

namespace Client

open Operation (outcome)

/-- The first of the fields that tell the file name. -/
def firstDisposition? (headers : Headers) : Option Header :=
  (headers.named "Content-Disposition").head?

/-- What the first field that tells the file name announces, if there is one. -/
inductive Announces : Option Header → Except ClientError String → Prop
  | absent : Announces none (.error (.disposition .noMediaType))
  | refused {field : Header} {fault : Disposition.Fault} :
      Disposition.parse field.value = .error fault →
      Announces (some field) (.error (.disposition fault))
  | nameless {field : Header} {d : Disposition} : Disposition.parse field.value = .ok d →
      (∀ name, d.param? "filename" = some name → name = "") →
      Announces (some field) (.error .exportMissingFilename)
  | named {field : Header} {d : Disposition} {name : String} :
      Disposition.parse field.value = .ok d → d.param? "filename" = some name → name ≠ "" →
      Announces (some field) (.ok name)

theorem announces_announcedFilename (headers : Headers) :
    Announces (firstDisposition? headers) (announcedFilename headers) := by
  have hget : headers.get? "Content-Disposition" = (firstDisposition? headers).map (·.value) :=
    headers.get?_eq_head?_named _
  rw [announcedFilename, hget]
  cases firstDisposition? headers with
  | none => exact .absent
  | some field =>
      rw [Option.map_some, Option.getD_some]
      cases hparse : Disposition.parse field.value with
      | error fault => exact .refused hparse
      | ok d =>
          dsimp only
          cases hfilename : d.filename? with
          | none =>
              refine .nameless hparse fun name hname => ?_
              by_contra hne
              cases hfilename.symm.trans (Disposition.filename?_eq_some_iff.mpr ⟨hname, hne⟩)
          | some name =>
              obtain ⟨hname, hne⟩ := Disposition.filename?_eq_some_iff.mp hfilename
              exact .named hparse hname hne

theorem Announces.unique {field : Option Header} {result result' : Except ClientError String}
    (h : Announces field result) (h' : Announces field result') : result = result' := by
  cases h with
  | absent =>
      cases h'
      rfl
  | refused hparse =>
      cases h' with
      | refused hparse' => rw [Except.error.inj (hparse.symm.trans hparse')]
      | nameless hparse' | named hparse' => cases hparse.symm.trans hparse'
  | nameless hparse hname =>
      cases h' with
      | refused hparse' => cases hparse.symm.trans hparse'
      | nameless => rfl
      | named hparse' hname' hne =>
          cases hparse.symm.trans hparse'
          exact absurd (hname _ hname') hne
  | named hparse hname hne =>
      cases h' with
      | refused hparse' => cases hparse.symm.trans hparse'
      | nameless hparse' hname' =>
          cases hparse.symm.trans hparse'
          exact absurd (hname' _ hname) hne
      | named hparse' hname' =>
          cases hparse.symm.trans hparse'
          rw [Option.some.inj (hname.symm.trans hname')]

theorem Announces.ne_empty {field : Option Header} {name : String}
    (h : Announces field (.ok name)) : name ≠ "" := by
  cases h with
  | named _ _ hne => exact hne

theorem announcedFilename_eq_iff {headers : Headers} {result : Except ClientError String} :
    announcedFilename headers = result ↔ Announces (firstDisposition? headers) result := by
  constructor
  · rintro rfl
    exact announces_announcedFilename headers
  · exact (announces_announcedFilename headers).unique

/-- A field of white space has no kind, as if it were absent. -/
theorem announces_of_blank {field : Header} (h : Blank field.value.toList) :
    Announces (some field) (.error (.disposition .noMediaType)) :=
  .refused (Disposition.parse_of_blank h)

variable {σ : Type} (transport : Transport σ) (group app : String) (x : Exchange σ)

theorem result_exportApp : (outcome (exportApp transport group app) x).1
    = Transport.meaning (Reply.exported x.handed)
        (transport (getting (.exportApp group app)) x.service).1 := by
  rw [outcome_exportApp]
  split
  · next h => exact h.symm
  · next h => exact h.symm

/-- What an export hands over. -/
structure HandsOver (reply : Reply) (exported : ExportedApp) (y : Exchange σ) : Prop where
  /-- The success is announced with a file name. -/
  status : reply.status = .ok
  filename : Announces (firstDisposition? reply.headers) (.ok exported.filename)
  ne_empty : exported.filename ≠ ""
  /-- The archive is the body of the reply, with all that will arrive of it. -/
  body : exported.archive.body = reply.body
  /-- Nothing happened to it since it was opened. -/
  opened : y.log.getLast? = some (.opened exported.archive.number)
  /-- Reading gives all bytes up to its end, or else its own failure. -/
  read : ((Conversation.readAll exported.archive).run y).run.1 =
    match reply.body.failure? with
    | none => .ok (reply.body.flatMap Arrival.bytes)
    | some f => .error f

theorem firstDisposition?_append {headers : Headers} (h : (firstDisposition? headers).isSome)
    (later : List Header) :
    firstDisposition? ⟨headers.items ++ later⟩ = firstDisposition? headers := by
  obtain ⟨field, hfield⟩ := Option.isSome_iff_exists.mp h
  rw [hfield]
  rw [firstDisposition?, Headers.named] at hfield ⊢
  rw [List.filter_append, List.head?_append, hfield, Option.some_or]

/-- Reading a body to its end gives all bytes of its pieces, unless a failure comes before. -/
theorem run_readAll (body : OpenBody) (y : Exchange σ) :
    ((Conversation.readAll body).run y).run.1 =
      match body.body.failure? with
      | none => .ok (body.body.flatMap Arrival.bytes)
      | some f => .error f := by
  change body.body.read = _
  rw [Body.read_eq]
  cases hfailure : body.body.failure? with
  | none => exact congrArg Except.ok (Body.arrived_eq_flatMap hfailure)
  | some f => rfl

theorem handsOver_of_announces {reply : Reply}
    (hanswer : (transport (getting (.exportApp group app)) x.service).1 = .ok reply)
    (hs : reply.status = .ok) {filename : String}
    (h : Announces (firstDisposition? reply.headers) (.ok filename)) :
    ∃ exported, (outcome (exportApp transport group app) x).1 = .ok exported ∧
      HandsOver reply exported (outcome (exportApp transport group app) x).2 := by
  have hfilename := announcedFilename_eq_iff.mpr h
  have hmeaning : Transport.meaning (Reply.exported x.handed) (.ok reply)
      = .ok ⟨filename, ⟨x.handed, reply.body⟩⟩ := by
    rw [Transport.meaning, Reply.exported, if_pos hs, hfilename]
    rfl
  rw [outcome_exportApp, hanswer, hmeaning]
  refine ⟨_, rfl, hs, h, h.ne_empty, rfl, ?opened, ?read⟩
  case opened =>
    change (x.asked transport (getting (.exportApp group app))).log.getLast? = _
    rw [Exchange.log_asked transport hanswer, List.getLast?_append]
    rfl
  case read => exact run_readAll _ _

/-- **What an export hands over.** It succeeds exactly if it is answered with success and the first
`Content-Disposition` field has a file name; later fields do not matter. Then it hands over that name and
the body with nothing taken from it. In any other success the fault of the first field is reported,
whatever the body is. -/
theorem exportApp_hands_over :
    ((∃ exported, (outcome (exportApp transport group app) x).1 = .ok exported) ↔
      ∃ reply filename, (transport (getting (.exportApp group app)) x.service).1 = .ok reply ∧
        reply.status = .ok ∧ Announces (firstDisposition? reply.headers) (.ok filename)) ∧
    (∀ exported, (outcome (exportApp transport group app) x).1 = .ok exported →
      ∃ reply, (transport (getting (.exportApp group app)) x.service).1 = .ok reply ∧
        HandsOver reply exported (outcome (exportApp transport group app) x).2) ∧
    (∀ reply e, (transport (getting (.exportApp group app)) x.service).1 = .ok reply →
      reply.status = .ok → Announces (firstDisposition? reply.headers) (.error e) →
        (outcome (exportApp transport group app) x).1 = .error e) ∧
    (∀ headers, (∃ announced, Announces (firstDisposition? headers) announced) ∧
      ∀ later, (firstDisposition? headers).isSome →
        firstDisposition? ⟨headers.items ++ later⟩ = firstDisposition? headers) ∧
    ∀ field : Header, Blank field.value.toList →
      Announces (some field) (.error (.disposition .noMediaType)) := by
  have hexported : ∀ exported, (outcome (exportApp transport group app) x).1 = .ok exported →
      ∃ reply, (transport (getting (.exportApp group app)) x.service).1 = .ok reply ∧
        reply.status = .ok ∧ Announces (firstDisposition? reply.headers) (.ok exported.filename) := by
    intro exported h
    rw [result_exportApp] at h
    obtain ⟨reply, filename, hanswer, hs, hannounced, rfl⟩ := exported_eq_ok h
    exact ⟨reply, hanswer, hs, announcedFilename_eq_iff.mp hannounced⟩
  refine ⟨⟨?_, ?_⟩, ?_, ?_, ?_, ?_⟩
  · rintro ⟨exported, h⟩
    obtain ⟨reply, hanswer, hs, hannounced⟩ := hexported exported h
    exact ⟨reply, _, hanswer, hs, hannounced⟩
  · rintro ⟨reply, filename, hanswer, hs, h⟩
    obtain ⟨exported, hok, -⟩ := handsOver_of_announces transport group app x hanswer hs h
    exact ⟨exported, hok⟩
  · intro exported h
    obtain ⟨reply, hanswer, hs, hannounced⟩ := hexported exported h
    obtain ⟨other, hok, hhands⟩ :=
      handsOver_of_announces transport group app x hanswer hs hannounced
    rw [h] at hok
    rw [Except.ok.inj hok]
    exact ⟨reply, hanswer, hhands⟩
  · intro reply e hanswer hs h
    rw [result_exportApp, hanswer, Transport.meaning, Reply.exported, if_pos hs,
      announcedFilename_eq_iff.mpr h]
    rfl
  · intro headers
    exact ⟨⟨_, announces_announcedFilename headers⟩, fun later h => firstDisposition?_append h later⟩
  · exact fun field h => announces_of_blank h

end Client

end AppAdmin
