import AppAdmin.App
import AppAdmin.Profile
import AppAdmin.Proofs.Json.Typed
import AppAdmin.Session

/-!
What the service tells the program depends on the known members and on nothing else. A text may give
them in any order and any layout, leave them out, or say `null` for them, and may have further members
between them that say anything.
-/

namespace AppAdmin

namespace Json

variable {σ β : Type}

theorem Field.text_reads (name : String) (set : String → σ → σ) :
    Reads (Field.text name set).read fun t => (t.orNull "" Tree.text?).map set :=
  (reads_text.orDefault "").map set

theorem Field.list_reads {α : Type} {item : Reader α} {means : Tree → Option α}
    (h : Reads item means) (name : String) (set : List α → σ → σ) :
    Reads (Field.list name item set).read fun t => (t.orNull [] (Tree.list? means)).map set :=
  (h.list.orDefault []).map set

/-- Two records give the same values for the known members, whether they say `null` for the others
or leave them out. -/
def Shape.Agree (shape : Shape σ β) (rows rows' : Rows) : Prop :=
  ∀ name ∈ shape.names,
    (rows.values name).filterMap shape.means = (rows'.values name).filterMap shape.means

/-- The known members decide what is read from the text of a record. -/
structure Decided (read : Reader σ) (shape : Shape σ β) : Prop where
  /-- A regular record is what its known members give. -/
  takes : ∀ (script : Script) (members : Members), script.value = .record members →
    shape.Regular members.rows →
      decodeWith read script.bytes = .ok (shape.build (shape.given members.rows))
  /-- What else the texts hold makes no difference. -/
  agrees : ∀ (script script' : Script) (members members' : Members),
    script.value = .record members → script'.value = .record members' →
      shape.Regular members.rows → shape.Regular members'.rows →
        shape.Agree members.rows members'.rows →
          decodeWith read script.bytes = decodeWith read script'.bytes
  /-- A repeated member, or one of another type, is refused. -/
  refuses : ∀ (script : Script) (members : Members), script.value = .record members →
    ¬shape.Regular members.rows → ∃ e, decodeWith read script.bytes = .error e

theorem Shape.given_congr {shape : Shape σ β} {rows rows' : Rows} (h : shape.Agree rows rows') :
    shape.build (shape.given rows) = shape.build (shape.given rows') := by
  apply shape.build_congr
  intro name hname
  rw [given, given, h name hname]

theorem Shape.Fits.decided {shape : Shape σ β} {fields : List (Field σ)} {blank : σ}
    (h : shape.Fits fields blank) (title : String) : Decided (record title fields blank) shape := by
  have hdecode (script : Script) (members : Members) (hvalue : script.value = .record members) :
      (decodeWith (record title fields blank) script.bytes).toOption =
        shape.ofRows? members.rows := by
    rw [(h.reads_record title).decodeWith, hvalue]
    rfl
  have htakes (script : Script) (members : Members) (hvalue : script.value = .record members)
      (hregular : shape.Regular members.rows) :
      decodeWith (record title fields blank) script.bytes =
        .ok (shape.build (shape.given members.rows)) := by
    apply eq_ok_of_toOption
    rw [hdecode script members hvalue, Shape.ofRows?, if_pos hregular]
  refine ⟨htakes, ?_, ?_⟩
  · intro script script' members members' hvalue hvalue' hregular hregular' hagree
    rw [htakes script members hvalue hregular, htakes script' members' hvalue' hregular',
      Shape.given_congr hagree]
  · intro script members hvalue hregular
    apply exists_error_of_toOption
    rw [hdecode script members hvalue, Shape.ofRows?, if_neg hregular]

end Json

open Json (Field Shape Tree reads_text)

/-! ### The types -/

namespace App

def shape : Shape App String where
  names := ["_id", "client_app_id", "name", "group_id"]
  means := Tree.text?
  default := ""
  build g := ⟨g "_id", g "client_app_id", g "name", g "group_id"⟩
  nodup := by decide
  means_null := rfl
  build_congr h := by
    rw [h "_id" (by decide), h "client_app_id" (by decide), h "name" (by decide),
      h "group_id" (by decide)]

theorem fits : shape.Fits fields blank where
  names := rfl
  blank := rfl
  reads := by
    simp only [fields, List.forall_mem_cons, List.not_mem_nil, false_implies, implies_true,
      and_true]
    refine ⟨⟨_, Field.text_reads _ _, ?_⟩, ⟨_, Field.text_reads _ _, ?_⟩,
      ⟨_, Field.text_reads _ _, ?_⟩, ⟨_, Field.text_reads _ _, ?_⟩⟩
    all_goals
      intro g v
      simp [shape, Field.text]

end App

namespace Role

def shape : Shape Role String where
  names := ["role_name", "group_id"]
  means := Tree.text?
  default := ""
  build g := ⟨g "role_name", g "group_id"⟩
  nodup := by decide
  means_null := rfl
  build_congr h := by rw [h "role_name" (by decide), h "group_id" (by decide)]

theorem fits : shape.Fits fields blank where
  names := rfl
  blank := rfl
  reads := by
    simp only [fields, List.forall_mem_cons, List.not_mem_nil, false_implies, implies_true,
      and_true]
    refine ⟨⟨_, Field.text_reads _ _, ?_⟩, ⟨_, Field.text_reads _ _, ?_⟩⟩
    all_goals
      intro g v
      simp [shape, Field.text]

end Role

namespace Profile

/-- The roles are a list of records, each known by its own members. -/
def shape : Shape Profile (List Role) where
  names := ["roles"]
  means := Tree.list? Role.shape.tree?
  default := []
  build g := ⟨g "roles"⟩
  nodup := by decide
  means_null := rfl
  build_congr h := by rw [h "roles" (by decide)]

theorem fits : shape.Fits fields ⟨[]⟩ where
  names := rfl
  blank := rfl
  reads := by
    have hroles := Field.list_reads (Role.fits.reads_record "Role") "roles"
      fun roles (_ : Profile) => ⟨roles⟩
    intro field hfield
    rw [List.mem_singleton.mp hfield]
    exact ⟨_, hroles, fun g v => by simp [shape, Field.list]⟩

end Profile

namespace Session

def shape : Shape Session String where
  names := ["access_token", "refresh_token", "user_id", "device_id"]
  means := Tree.text?
  default := ""
  build g := ⟨g "access_token", g "refresh_token", g "user_id", g "device_id"⟩
  nodup := by decide
  means_null := rfl
  build_congr h := by
    rw [h "access_token" (by decide), h "refresh_token" (by decide), h "user_id" (by decide),
      h "device_id" (by decide)]

theorem fits : shape.Fits fields blank where
  names := rfl
  blank := rfl
  reads := by
    simp only [fields, List.forall_mem_cons, List.not_mem_nil, false_implies, implies_true,
      and_true]
    refine ⟨⟨_, Field.text_reads _ _, ?_⟩, ⟨_, Field.text_reads _ _, ?_⟩,
      ⟨_, Field.text_reads _ _, ?_⟩, ⟨_, Field.text_reads _ _, ?_⟩⟩
    all_goals
      intro g v
      simp [shape, Field.text]

end Session

/-- **The known members decide.** What the service says of an app, a role, a profile or a session is
read from the known members alone, each of which is the text, or the list of roles, that is given for
it. -/
theorem known_members_decide :
    Json.Decided App.read App.shape ∧ Json.Decided Role.read Role.shape ∧
      Json.Decided Profile.read Profile.shape ∧ Json.Decided Session.read Session.shape :=
  ⟨App.fits.decided "App", Role.fits.decided "Role", Profile.fits.decided "UserProfile",
    Session.fits.decided "AuthResponse"⟩

/-- Unknown members, a repeated one among them, and a `null`. -/
example : Role.shape.ofRows? [(some "level", .bool true), (some "group_id", .null),
    (some "role_name", .text [.letter .slash]), (some "level", .list (.close .none))] =
      some ⟨"/", ""⟩ := by
  decide

end AppAdmin
