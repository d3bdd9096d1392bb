import AppAdmin.Proofs.Disposition.Listing

/-!
What the file name of a header value depends on: the parameters named `filename`, with or without stars.
All stars are dropped from the name of a starred parameter, not one, so that a parameter with two of
them takes the place of the file name too.
-/

namespace AppAdmin.Disposition

/-- A parameter stands for another name, unless it has that name, perhaps with stars, and stars only with
a value that can be decoded. -/
theorem meant_ne {entry : String × String} {name : String} (hname : ¬IsStarred name)
    (h : ∀ k, entry.1 = name ++ stars k → 0 < k ∧ decodeStarred entry.2.toList = none) :
    (meant entry).1 ≠ name := by
  intro heq
  obtain ⟨k, hk⟩ := exists_stars_of_meant hname heq
  obtain ⟨hpos, hvalue⟩ := h k hk
  obtain ⟨j, rfl⟩ := Nat.exists_eq_add_one.mpr hpos
  rw [meant_of_undecoded hvalue] at heq
  rw [← heq, hk] at hname
  exact hname (isStarred_append_stars name j)

/-- **The file name depends on the parameters of its name.** Any parameter can be taken out of a header
value that is accepted, and the rest is accepted. Only a parameter named `filename` with any number of
stars makes a difference to the file name, and one with stars only if its value can be decoded. -/
theorem filename?_without {header : String} {d : Disposition} (hd : parse header = .ok d) :
    (∃ entries, Lists entries header ∧ ∀ entry ∈ entries, ∃ others rest,
      Without entry others header rest) ∧
    ∀ entry others rest, Without entry others header rest →
      ∃ d', parse rest = .ok d' ∧ d'.kind = d.kind ∧
        ((∀ k, entry.1 = "filename" ++ stars k → 0 < k ∧ decodeStarred entry.2.toList = none) →
          d'.filename? = d.filename?) := by
  constructor
  · obtain ⟨entries, hlists⟩ := exists_lists hd
    exact ⟨entries, hlists, fun entry hentry => hlists.exists_without hentry⟩
  · intro entry others rest hwithout
    refine ⟨_, (hwithout.parse hd).2.2, rfl, fun hname => ?_⟩
    have hother : (meant entry).1 ≠ Text.lowered "filename" := meant_ne (by decide) hname
    rw [filename?, filename?, hwithout.param?_eq hd hother]

theorem parameter_filename : Parameter "; filename=a.zip".toList ("filename", "a.zip") :=
  .of_tokens "filename".toList "a.zip".toList (by decide) (by decide)

theorem filename?_without_size : ∃ d d',
    parse "attachment; size=42; filename=a.zip" = .ok d ∧
      parse "attachment; filename=a.zip" = .ok d' ∧ d'.filename? = d.filename? := by
  have hsize : Parameter "; size=42".toList ("size", "42") :=
    .of_tokens "size".toList "42".toList (by decide) (by decide)
  have hfront : ∀ c ∈ "attachment".toList, c ≠ ';' :=
    Text.forall_of_all (by decide)
  have hrun : Run "; size=42; filename=a.zip".toList [("size", "42"), ("filename", "a.zip")] :=
    .cons hsize (.cons parameter_filename .nil)
  have hwithout : Without ("size", "42") [("filename", "a.zip")]
      "attachment; size=42; filename=a.zip" "attachment; filename=a.zip" := by
    have hmk := Without.mk hfront .nil hsize (.cons parameter_filename .nil) (.blank .nil)
    simpa using hmk
  have hlists : Lists [("size", "42"), ("filename", "a.zip")]
      "attachment; size=42; filename=a.zip" := by
    have hmk := Lists.mk hfront hrun (.blank .nil)
    simpa using hmk
  have hparse := hlists.parse_eq_ok_iff.mpr ⟨Or.inl (by decide), by decide, rfl⟩
  obtain ⟨d', hd', -, hsame⟩ := (filename?_without hparse).2 _ _ _ hwithout
  refine ⟨_, d', hparse, hd', hsame fun k hk => ?_⟩
  exact absurd (congrArg String.toList hk) (by simp [stars])

/-- A parameter with two stars takes the place of the file name, although its name is neither `filename`
nor `filename*`. -/
theorem filename_displaced :
    Without ("filename**", "UTF-8''evil.zip") [("filename", "a.zip")]
        "attachment; filename=a.zip; filename**=UTF-8''evil.zip" "attachment; filename=a.zip" ∧
      "filename**" ≠ "filename" ∧ "filename**" ≠ "filename*" ∧
      ∃ d d', parse "attachment; filename=a.zip; filename**=UTF-8''evil.zip" = .ok d ∧
        parse "attachment; filename=a.zip" = .ok d' ∧
        d.filename? = some "evil.zip" ∧ d'.filename? = some "a.zip" := by
  have hevil : Parameter "; filename**=UTF-8''evil.zip".toList ("filename**", "UTF-8''evil.zip") :=
    .of_tokens "filename**".toList "UTF-8''evil.zip".toList (by decide) (by decide)
  have hfront : ∀ c ∈ "attachment".toList, c ≠ ';' :=
    Text.forall_of_all (by decide)
  have hrun : Run "; filename=a.zip".toList [("filename", "a.zip")] :=
    .cons parameter_filename .nil
  have hwithout : Without ("filename**", "UTF-8''evil.zip") [("filename", "a.zip")]
      "attachment; filename=a.zip; filename**=UTF-8''evil.zip" "attachment; filename=a.zip" := by
    have hmk := Without.mk hfront hrun hevil .nil (.blank .nil)
    simpa using hmk
  have hlists : Lists [("filename", "a.zip"), ("filename**", "UTF-8''evil.zip")]
      "attachment; filename=a.zip; filename**=UTF-8''evil.zip" := by
    have hmk := Lists.mk hfront (hrun.append (.cons hevil .nil)) (.blank .nil)
    simpa using hmk
  have hparse := hlists.parse_eq_ok_iff.mpr ⟨Or.inl (by decide), by decide, rfl⟩
  refine ⟨hwithout, by decide, by decide, _, _, hparse, (hwithout.parse hparse).2.2, ?_, ?_⟩
  · decide +kernel
  · decide +kernel

end AppAdmin.Disposition
