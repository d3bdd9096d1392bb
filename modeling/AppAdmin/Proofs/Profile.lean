import AppAdmin.Profile
import Mathlib.Data.List.Induction
import Mathlib.Data.List.Nodup

/-!
The groups of a profile. They are those that the roles name, each once, in the order in which they are
named first; that leaves one list only, and laws of longer lists of roles follow from it.
-/

namespace AppAdmin

namespace Profile

/-- The groups of roles: each that a role names, once, in the order of the first role that names it. A
role that is held everywhere names none. -/
structure Lists (roles : List Role) (groups : List String) : Prop where
  mem_iff : ∀ group, group ∈ groups ↔ group ≠ "" ∧ ∃ role ∈ roles, role.groupId = group
  nodup : groups.Nodup
  ordered : groups.Pairwise fun earlier later =>
    (roles.map Role.groupId).idxOf earlier < (roles.map Role.groupId).idxOf later

variable {roles more : List Role} {groups others : List String}

namespace Lists

theorem mem_map (h : Lists roles groups) {group : String} (hmem : group ∈ groups) :
    group ∈ roles.map Role.groupId :=
  List.mem_map.mpr ((h.mem_iff group).mp hmem).2

theorem notMem_map (h : Lists roles groups) {group : String} (hne : group ≠ "")
    (hmem : group ∉ groups) : group ∉ roles.map Role.groupId := by
  intro hmap
  exact hmem ((h.mem_iff group).mpr ⟨hne, List.mem_map.mp hmap⟩)

/-- Roles behind the others do not change which of the groups before is named first. -/
theorem ordered_append (h : Lists roles groups) (more : List Role) :
    groups.Pairwise fun earlier later => ((roles ++ more).map Role.groupId).idxOf earlier
      < ((roles ++ more).map Role.groupId).idxOf later := by
  refine h.ordered.imp_of_mem fun {earlier later} hearlier hlater hlt => ?_
  rw [List.map_append, List.idxOf_append_of_mem (h.mem_map hearlier),
    List.idxOf_append_of_mem (h.mem_map hlater)]
  exact hlt

/-- A group that only the roles behind name comes behind those before. -/
theorem idxOf_lt (h : Lists roles groups) {earlier later : String} (hearlier : earlier ∈ groups)
    (hne : later ≠ "") (hlater : later ∉ groups) (more : List Role) :
    ((roles ++ more).map Role.groupId).idxOf earlier
      < ((roles ++ more).map Role.groupId).idxOf later := by
  rw [List.map_append, List.idxOf_append_of_mem (h.mem_map hearlier),
    List.idxOf_append_of_notMem (h.notMem_map hne hlater)]
  exact Nat.lt_add_right _ (List.idxOf_lt_length_iff.mpr (h.mem_map hearlier))

/-- There is one list of the groups of roles. -/
theorem unique (h : Lists roles groups) (h' : Lists roles others) : groups = others := by
  have hperm : groups.Perm others := by
    rw [List.perm_ext_iff_of_nodup h.nodup h'.nodup]
    exact fun group => (h.mem_iff group).trans (h'.mem_iff group).symm
  refine hperm.eq_of_pairwise (fun earlier later _ _ hlt hgt => ?_) h.ordered h'.ordered
  exact absurd hlt (Nat.lt_asymm hgt)

/-- What roles and roles behind them list together: the groups of the first ones, and then those that
only the others name. -/
theorem append (h : Lists roles groups) (h' : Lists more others) :
    Lists (roles ++ more) (groups ++ others.filter (· ∉ groups)) where
  mem_iff group := by
    simp only [List.mem_append, List.mem_filter, decide_eq_true_eq, or_and_right, exists_or,
      h'.mem_iff, and_or_left, ← h.mem_iff]
    by_cases hmem : group ∈ groups <;> simp [hmem]
  nodup := by
    refine h.nodup.append (h'.nodup.filter _) fun group hmem hrest => ?_
    exact of_decide_eq_true (List.mem_filter.mp hrest).2 hmem
  ordered := by
    refine List.pairwise_append.mpr ⟨h.ordered_append more, ?_, fun earlier hearlier later hlater => ?_⟩
    · refine (h'.ordered.filter _).imp_of_mem fun {earlier later} hearlier hlater hlt => ?_
      -- Both are named by the roles behind only, so both move by the number of the roles before.
      have hmove {group : String} (hgroup : group ∈ others.filter (· ∉ groups)) :
          ((roles ++ more).map Role.groupId).idxOf group
            = (roles.map Role.groupId).length + (more.map Role.groupId).idxOf group := by
        obtain ⟨hmem, hnew⟩ := List.mem_filter.mp hgroup
        have hne := ((h'.mem_iff group).mp hmem).1
        rw [List.map_append, List.idxOf_append_of_notMem
          (h.notMem_map hne (of_decide_eq_true hnew))]
      rw [hmove hearlier, hmove hlater]
      exact Nat.add_lt_add_left hlt _
    · obtain ⟨hmem, hnew⟩ := List.mem_filter.mp hlater
      exact h.idxOf_lt hearlier ((h'.mem_iff later).mp hmem).1 (of_decide_eq_true hnew) more

/-- The group of a role alone. -/
theorem alone (role : Role) :
    Lists [role] (if role.groupId = "" then [] else [role.groupId]) := by
  split
  next hglobal =>
    refine ⟨fun group => ?_, List.nodup_nil, .nil⟩
    simp only [List.not_mem_nil, List.mem_singleton, exists_eq_left, hglobal, false_iff, not_and]
    exact fun hne heq => hne heq.symm
  next hne =>
    refine ⟨fun group => ?_, List.nodup_singleton _, List.pairwise_singleton _ _⟩
    simp only [List.mem_singleton, exists_eq_left]
    exact ⟨fun heq => ⟨heq ▸ hne, heq.symm⟩, fun h => h.2.symm⟩

/-- Adding the group of one more role keeps the list right. -/
theorem addGroup (h : Lists roles groups) (role : Role) :
    Lists (roles ++ [role]) (Profile.addGroup groups role) := by
  have hadd : Profile.addGroup groups role
      = groups ++ (if role.groupId = "" then [] else [role.groupId]).filter (· ∉ groups) := by
    by_cases hglobal : role.groupId = "" <;> by_cases hmem : role.groupId ∈ groups <;>
      simp [Profile.addGroup, hglobal, hmem]
  rw [hadd]
  exact h.append (alone role)

end Lists

/-! ### The groups that are found -/

theorem addGroup_of_known {groups : List String} {role : Role}
    (h : role.groupId = "" ∨ role.groupId ∈ groups) : addGroup groups role = groups :=
  if_pos h

theorem lists_groupIds (profile : Profile) : Lists profile.roles profile.groupIds := by
  rw [groupIds]
  -- The roles are met from the front, so the list is right for those met so far.
  induction profile.roles using List.reverseRecOn with
  | nil => exact ⟨fun group => by simp, List.nodup_nil, .nil⟩
  | append_singleton roles role ih =>
      rw [List.foldl_concat]
      exact ih.addGroup role

theorem nodup_groupIds (profile : Profile) : profile.groupIds.Nodup :=
  (lists_groupIds profile).nodup

theorem groupIds_append (before behind : List Role) :
    groupIds ⟨before ++ behind⟩
      = groupIds ⟨before⟩ ++ (groupIds ⟨behind⟩).filter (· ∉ groupIds ⟨before⟩) :=
  (lists_groupIds ⟨before ++ behind⟩).unique
    ((lists_groupIds ⟨before⟩).append (lists_groupIds ⟨behind⟩))

/-- A role that names no group, or one that was named before, can be left out. -/
theorem groupIds_of_known {before : List Role} {role : Role}
    (h : role.groupId = "" ∨ ∃ other ∈ before, other.groupId = role.groupId)
    (behind : List Role) : groupIds ⟨before ++ role :: behind⟩ = groupIds ⟨before ++ behind⟩ := by
  have hknown : role.groupId = "" ∨ role.groupId ∈ before.foldl addGroup [] := by
    refine or_iff_not_imp_left.mpr fun hne => ?_
    exact ((lists_groupIds ⟨before⟩).mem_iff _).mpr ⟨hne, h.resolve_left hne⟩
  rw [groupIds, groupIds, List.foldl_append, List.foldl_cons, addGroup_of_known hknown,
    List.foldl_append]

/-- **The groups of a profile are those of its roles without repetition, in order.** They list what the
roles name, and nothing else lists it. Roles that come behind leave the groups found before as they
are, and add the new ones behind them; a role that names no group, or one that was named before it,
changes nothing. -/
theorem groupIds_stable (profile : Profile) :
    (∀ groups, profile.groupIds = groups ↔ Lists profile.roles groups) ∧
    (∀ behind, groupIds ⟨profile.roles ++ behind⟩
      = profile.groupIds ++ (groupIds ⟨behind⟩).filter (· ∉ profile.groupIds)) ∧
    ∀ before role behind, profile.roles = before ++ behind →
      (role.groupId = "" ∨ ∃ other ∈ before, other.groupId = role.groupId) →
      groupIds ⟨before ++ role :: behind⟩ = profile.groupIds := by
  refine ⟨fun groups => ⟨?_, fun h => profile.lists_groupIds.unique h⟩, ?_, ?_⟩
  · rintro rfl
    exact profile.lists_groupIds
  · exact fun behind => groupIds_append profile.roles behind
  · intro before role behind hroles hknown
    rw [groupIds_of_known hknown, ← hroles]

/-- A role that is held everywhere, and an owner of a group who may also read it. -/
theorem groupIds_stable_owner :
    groupIds ⟨[⟨"GROUP_OWNER", "g2"⟩, ⟨"GLOBAL_ADMIN", ""⟩, ⟨"GROUP_READ_ONLY", "g1"⟩,
        ⟨"GROUP_READ_ONLY", "g2"⟩]⟩ = ["g2", "g1"] := by
  have hlast := (groupIds_stable ⟨[⟨"GROUP_OWNER", "g2"⟩, ⟨"GLOBAL_ADMIN", ""⟩,
    ⟨"GROUP_READ_ONLY", "g1"⟩]⟩).2.2 _ ⟨"GROUP_READ_ONLY", "g2"⟩ [] (List.append_nil _).symm
    (by decide)
  exact hlast.trans (by decide)

end Profile

end AppAdmin
