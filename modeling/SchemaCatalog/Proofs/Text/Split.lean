import SchemaCatalog.Text.Split
import Mathlib.Data.List.DropRight
import Mathlib.Tactic.Common

/-!
# Pieces between separators

`split` cuts at separators only (`split_append_cons`) and everywhere (`split_of_not_mem`), and `join`
undoes it (`join_split`). Pieces without separators are found again behind `join` (`split_join`).

`trim` leaves no separator at either end (`head?_trim_ne`, `getLast?_trim_ne`), and changes nothing
where there is none (`trim_eq_self_iff`). With more behind a separator, it leaves what it left before, and
goes on with a separator if it goes on (`trim_append_cons`).

One text is a beginning of another one up to a separator if its pieces are the first ones of the other
(`isPrefix_split_iff`).
-/

namespace SchemaCatalog.Text

theorem split_ne_nil (sep : Char) (cs : List Char) : split sep cs ≠ [] := by
  cases cs with
  | nil => exact List.cons_ne_nil _ _
  | cons c cs =>
    rw [split]
    split
    · exact List.cons_ne_nil _ _
    · split <;> exact List.cons_ne_nil _ _

theorem split_cons_sep (sep : Char) (cs : List Char) :
    split sep (sep :: cs) = [] :: split sep cs := by
  rw [split, if_pos rfl]

theorem split_cons_of_ne {sep c : Char} (hc : c ≠ sep) {cs piece : List Char}
    {rest : List (List Char)} (hs : split sep cs = piece :: rest) :
    split sep (c :: cs) = (c :: piece) :: rest := by
  rw [split, if_neg hc, hs]

/-- The pieces around a separator are cut on their own. -/
theorem split_append_cons (sep : Char) (xs ys : List Char) :
    split sep (xs ++ sep :: ys) = split sep xs ++ split sep ys := by
  induction xs with
  | nil => exact split_cons_sep sep ys
  | cons x xs ih =>
    rw [List.cons_append]
    by_cases hx : x = sep
    · rw [hx, split_cons_sep, split_cons_sep, ih, List.cons_append]
    · obtain ⟨piece, rest, hs⟩ := List.exists_cons_of_ne_nil (split_ne_nil sep xs)
      rw [hs, List.cons_append] at ih
      rw [split_cons_of_ne hx ih, split_cons_of_ne hx hs, List.cons_append]

/-- Characters without a separator are one piece. -/
theorem split_of_not_mem {sep : Char} {cs : List Char} (h : sep ∉ cs) : split sep cs = [cs] := by
  induction cs with
  | nil => rfl
  | cons c cs ih =>
    rw [List.mem_cons, not_or] at h
    exact split_cons_of_ne (Ne.symm h.1) (ih h.2)

theorem join_cons_cons (sep : Char) (piece next : List Char) (rest : List (List Char)) :
    join sep (piece :: next :: rest) = piece ++ sep :: join sep (next :: rest) := by
  rw [join]
  exact List.cons_ne_nil next rest

/-- Joining undoes cutting. -/
theorem join_split (sep : Char) (cs : List Char) : join sep (split sep cs) = cs := by
  induction cs with
  | nil => rfl
  | cons c cs ih =>
    obtain ⟨piece, rest, hs⟩ := List.exists_cons_of_ne_nil (split_ne_nil sep cs)
    rw [hs] at ih
    by_cases hc : c = sep
    · rw [hc, split_cons_sep, hs, join_cons_cons, ih, List.nil_append]
    · rw [split_cons_of_ne hc hs]
      cases rest with
      | nil => rw [join, ← ih, join]
      | cons next rest => rw [join_cons_cons, List.cons_append, ← join_cons_cons, ih]

/-- What is cut into one piece is that piece. -/
theorem eq_of_split_eq_singleton {sep : Char} {cs piece : List Char}
    (h : split sep cs = [piece]) : cs = piece := by
  rw [← join_split sep cs, h, join]

/-- Cutting undoes joining where the pieces hold no separators. -/
theorem split_join {sep : Char} {pieces : List (List Char)} (hne : pieces ≠ [])
    (h : ∀ piece ∈ pieces, sep ∉ piece) : split sep (join sep pieces) = pieces := by
  induction pieces with
  | nil => exact absurd rfl hne
  | cons piece rest ih =>
    have hpiece := split_of_not_mem (h piece List.mem_cons_self)
    cases rest with
    | nil => rw [join, hpiece]
    | cons next rest =>
      have hrest := ih (List.cons_ne_nil _ _) fun p hp => h p (List.mem_cons_of_mem _ hp)
      rw [join_cons_cons, split_append_cons, hpiece, hrest, List.singleton_append]

/-- More pieces stand behind the first ones, after a separator. -/
theorem join_append {sep : Char} {pieces more : List (List Char)} (hp : pieces ≠ [])
    (hm : more ≠ []) : join sep (pieces ++ more) = join sep pieces ++ sep :: join sep more := by
  induction pieces with
  | nil => exact absurd rfl hp
  | cons piece rest ih =>
    cases rest with
    | nil =>
      obtain ⟨next, more, rfl⟩ := List.exists_cons_of_ne_nil hm
      rw [List.singleton_append, join_cons_cons, join]
    | cons next rest =>
      rw [List.cons_append, List.cons_append, join_cons_cons, ← List.cons_append,
        ih (List.cons_ne_nil _ _), join_cons_cons, List.append_assoc, List.cons_append]

/-- Joined pieces begin as the first of them does. -/
theorem head?_join {sep : Char} {pieces : List (List Char)} (h : ∀ piece ∈ pieces, piece ≠ []) :
    (join sep pieces).head? = pieces.head?.bind List.head? := by
  cases pieces with
  | nil => rfl
  | cons piece rest =>
    obtain ⟨c, cs, rfl⟩ := List.exists_cons_of_ne_nil (h piece List.mem_cons_self)
    cases rest with
    | nil => simp [join]
    | cons next rest => simp [join_cons_cons]

/-- Joined pieces end as the last of them does. -/
theorem getLast?_join {sep : Char} {pieces : List (List Char)} (h : ∀ piece ∈ pieces, piece ≠ []) :
    (join sep pieces).getLast? = pieces.getLast?.bind List.getLast? := by
  rcases List.eq_nil_or_concat pieces with rfl | ⟨init, last, rfl⟩
  · rfl
  · rw [List.concat_eq_append] at h ⊢
    obtain ⟨c, cs, rfl⟩ := List.exists_cons_of_ne_nil (h last (by simp))
    by_cases hinit : init = []
    · simp [hinit, join]
    · rw [join_append hinit (List.cons_ne_nil _ _), join]
      simp [List.getLast?_cons]

/-- The pieces of one text are the first ones of another text if that goes on with a separator behind
the first text, or does not go on. -/
theorem isPrefix_split_iff {sep : Char} {lead cs : List Char} :
    split sep lead <+: split sep cs ↔ cs = lead ∨ ∃ rest, cs = lead ++ sep :: rest := by
  constructor
  · rintro ⟨more, hmore⟩
    rw [← join_split sep cs, ← hmore]
    by_cases hm : more = []
    · rw [hm, List.append_nil, join_split]
      exact .inl rfl
    · rw [join_append (split_ne_nil sep lead) hm, join_split]
      exact .inr ⟨_, rfl⟩
  · rintro (rfl | ⟨rest, rfl⟩)
    · exact List.prefix_refl _
    · rw [split_append_cons]
      exact List.prefix_append _ _

/-! ### Beginnings -/

/-- What follows a beginning. -/
theorem after?_eq_some_iff {lead cs rest : List Char} :
    after? lead cs = some rest ↔ cs = lead ++ rest := by
  induction lead generalizing cs with
  | nil => simp [after?]
  | cons l lead ih =>
    cases cs with
    | nil => simp [after?]
    | cons c cs =>
      rw [after?]
      split_ifs with hc
      · rw [ih, hc, List.cons_append, List.cons.injEq, eq_self_iff_true, true_and]
      · simp [Ne.symm hc]

/-! ### Separators at the ends -/

/-- No separator is left at the start. -/
theorem head?_trim_ne (sep : Char) (cs : List Char) : (trim sep cs).head? ≠ some sep := by
  intro h
  obtain ⟨rest, hrest⟩ : trim sep cs <+: cs.dropWhile (· = sep) := List.rdropWhile_prefix _ _
  have hdrop := List.head?_dropWhile_not (· = sep) cs
  rw [← hrest, List.head?_append, h] at hdrop
  simp at hdrop

/-- No separator is left at the end. -/
theorem getLast?_trim_ne (sep : Char) (cs : List Char) : (trim sep cs).getLast? ≠ some sep := by
  intro h
  have hdrop := List.head?_dropWhile_not (· = sep) (cs.dropWhile (· = sep)).reverse
  rw [trim, List.getLast?_reverse] at h
  rw [h] at hdrop
  simp at hdrop

/-- Characters without a separator at either end stay as they are, and only these. -/
theorem trim_eq_self_iff {sep : Char} {cs : List Char} :
    trim sep cs = cs ↔ cs.head? ≠ some sep ∧ cs.getLast? ≠ some sep := by
  constructor
  · intro h
    rw [← h]
    exact ⟨head?_trim_ne sep cs, getLast?_trim_ne sep cs⟩
  · rintro ⟨hhead, hlast⟩
    have hdrop : cs.dropWhile (· = sep) = cs := by
      cases cs with
      | nil => rfl
      | cons c cs => simp_all
    have hrdrop : cs.rdropWhile (· = sep) = cs := by
      rw [List.rdropWhile_eq_self_iff]
      intro hne
      simpa [List.getLast?_eq_getLast_of_ne_nil hne] using hlast
    show (cs.dropWhile (· = sep)).rdropWhile (· = sep) = cs
    rw [hdrop, hrdrop]

/-- Nothing is left of separators only. -/
theorem trim_eq_nil_iff {sep : Char} {cs : List Char} : trim sep cs = [] ↔ ∀ c ∈ cs, c = sep := by
  have hrdrop : trim sep cs = (cs.dropWhile (· = sep)).rdropWhile (· = sep) := rfl
  rw [hrdrop, List.rdropWhile_eq_nil_iff]
  constructor
  · intro h
    -- What is left at the start is no separator, so there is nothing left.
    have hdrop := List.head?_dropWhile_not (· = sep) cs
    cases hleft : cs.dropWhile (· = sep) with
    | nil => simpa using List.dropWhile_eq_nil_iff.mp hleft
    | cons c rest =>
      rw [hleft] at h hdrop
      simp_all
  · intro h c hc
    simpa using h c ((List.dropWhile_suffix _).subset hc)

theorem trim_trim (sep : Char) (cs : List Char) : trim sep (trim sep cs) = trim sep cs :=
  trim_eq_self_iff.mpr ⟨head?_trim_ne sep cs, getLast?_trim_ne sep cs⟩

/-- Characters that do not end with a separator stay when what follows them is trimmed at its end. -/
theorem rdropWhile_append {sep : Char} {core : List Char} (hne : core ≠ [])
    (hlast : core.getLast? ≠ some sep) (after : List Char) :
    (core ++ after).rdropWhile (· = sep) = core ++ after.rdropWhile (· = sep) := by
  induction after using List.reverseRecOn with
  | nil =>
    rw [List.append_nil, List.rdropWhile_nil, List.append_nil, List.rdropWhile_eq_self_iff]
    intro _
    simpa [List.getLast?_eq_getLast_of_ne_nil hne] using hlast
  | append_singleton after c ih =>
    rw [← List.append_assoc, List.rdropWhile_concat, List.rdropWhile_concat]
    split_ifs
    · exact ih
    · rw [List.append_assoc]

/-- Around characters that trimming leaves, separators before them go, and what follows them is trimmed at
its end. -/
theorem trim_append_append {sep : Char} {before core : List Char} (hbefore : ∀ c ∈ before, c = sep)
    (hne : core ≠ []) (hcore : trim sep core = core) (after : List Char) :
    trim sep (before ++ (core ++ after)) = core ++ after.rdropWhile (· = sep) := by
  obtain ⟨hhead, hlast⟩ := trim_eq_self_iff.mp hcore
  have hdrop : (before ++ (core ++ after)).dropWhile (· = sep) = core ++ after := by
    rw [List.dropWhile_append_of_pos (by simpa using hbefore)]
    obtain ⟨c, cs, rfl⟩ := List.exists_cons_of_ne_nil hne
    simp_all
  show ((before ++ (core ++ after)).dropWhile (· = sep)).rdropWhile (· = sep) = _
  rw [hdrop, rdropWhile_append hne hlast]

/-- Trimming takes separators off, and nothing else. -/
theorem exists_eq_append_trim (sep : Char) (cs : List Char) :
    ∃ before after, (∀ c ∈ before, c = sep) ∧ (∀ c ∈ after, c = sep) ∧
      cs = before ++ (trim sep cs ++ after) := by
  refine ⟨cs.takeWhile (· = sep), (cs.dropWhile (· = sep)).rtakeWhile (· = sep), ?_, ?_, ?_⟩
  · intro c hc
    simpa using List.mem_takeWhile_imp hc
  · intro c hc
    simpa using List.mem_rtakeWhile_imp hc
  · show cs = _ ++ ((cs.dropWhile (· = sep)).rdropWhile (· = sep) ++ _)
    rw [List.rdropWhile_append_rtakeWhile, List.takeWhile_append_dropWhile]

/-- With more behind a separator, what is left of some characters goes on with a separator, if it goes on. -/
theorem trim_append_cons {sep : Char} {cs : List Char} (hne : trim sep cs ≠ []) (more : List Char) :
    trim sep (cs ++ sep :: more) = trim sep cs ∨
      ∃ rest, trim sep (cs ++ sep :: more) = trim sep cs ++ sep :: rest := by
  obtain ⟨before, after, hbefore, hafter, hcs⟩ := exists_eq_append_trim sep cs
  have htrim : trim sep (cs ++ sep :: more) =
      trim sep cs ++ (after ++ sep :: more).rdropWhile (· = sep) := by
    conv_lhs => rw [hcs, List.append_assoc, List.append_assoc]
    exact trim_append_append hbefore hne (trim_trim sep cs) _
  obtain ⟨rest, hrest⟩ : (after ++ sep :: more).rdropWhile (· = sep) <+: after ++ sep :: more :=
    List.rdropWhile_prefix _ _
  rw [htrim]
  cases hleft : (after ++ sep :: more).rdropWhile (· = sep) with
  | nil => exact .inl (List.append_nil _)
  | cons c left =>
    rw [hleft] at hrest
    have hc : c = sep := by
      cases after with
      | nil => exact (List.cons.inj hrest).1
      | cons d after => exact (List.cons.inj hrest).1.trans (hafter d List.mem_cons_self)
    exact .inr ⟨left, by rw [hc]⟩

end SchemaCatalog.Text
