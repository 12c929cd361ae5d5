import SchemaCatalog.Proofs.Cancellation.History

/-!
# Cancellation follows ancestry

A forest `Tracks` a history. A token that somebody has a handle on is reached in the forest from just the
tokens that descend from it (`Tracks.above`), although tokens in between may be gone: a token that goes gives
its children to its parent, and so is passed by (`Tracks.release`). So a token is marked if it, or one that it
descends from, was asked to be cancelled, whenever that was (`Tracks.marked`). Every step keeps this
(`Follows.step`), and `isCancelled_ofSteps` tells what it comes to for those who have handles.
-/

namespace SchemaCatalog

namespace Forest

/-- The forest that steps make. -/
def ofSteps (steps : List Step) : Forest := steps.foldl step empty

/-- The token that one hangs on. -/
def parent? (f : Forest) (token : Nat) : Option Nat := f.tokens[token]?.bind Token.parent

/-- A token is made, without a handle. -/
def push (f : Forest) (token : Token) : Forest := { f with tokens := f.tokens ++ [token] }

/-- A name is put on a token; the token it was on stays as it is. -/
def rename (f : Forest) (name : String) (token : Nat) : Forest :=
  { f with handles := (name, token) :: f.handles.filter (·.1 != name) }

/-- A name is taken away; the token it was on stays as it is. -/
def unname (f : Forest) (name : String) : Forest :=
  { f with handles := f.handles.filter (·.1 != name) }

variable {f : Forest} {token place : Nat} {name other : String}

/-! ### Handles -/

theorem lookup_filter_ne (handles : List (String × Nat)) (name other : String) :
    (handles.filter (·.1 != name)).lookup other =
      if other = name then none else handles.lookup other := by
  induction handles with
  | nil => simp
  | cons handle handles ih =>
    obtain ⟨key, token⟩ := handle
    rw [List.filter_cons, List.lookup_cons]
    grind

theorem token?_rename (f : Forest) (name other : String) (token : Nat) :
    (f.rename name token).token? other = if other = name then some token else f.token? other := by
  rw [token?, rename, List.lookup_cons, lookup_filter_ne]
  grind [token?]

theorem token?_unname (f : Forest) (name other : String) :
    (f.unname name).token? other = if other = name then none else f.token? other :=
  lookup_filter_ne f.handles name other

theorem bind_eq (f : Forest) (name : String) (token : Nat) :
    f.bind name token = (f.token? name).elim (f.rename name token) (f.rename name token).release := by
  rw [bind]
  cases f.token? name <;> rfl

theorem drop_eq (f : Forest) (name : String) :
    f.drop name = (f.token? name).elim f (f.unname name).release := by
  rw [drop]
  cases f.token? name <;> rfl

/-- A handle is on the token that its name is found on. -/
theorem mem_handles_of_token? (h : f.token? name = some token) : (name, token) ∈ f.handles := by
  obtain ⟨before, after, hsplit, -⟩ := List.lookup_eq_some_iff.mp h
  exact hsplit ▸ List.mem_append_right before List.mem_cons_self

/-- A token with a handle stays. -/
theorem release_of_mem (hmem : (name, token) ∈ f.handles) : f.release token = f := by
  have hany : f.handles.any (·.2 == token) = true :=
    List.any_eq_true.mpr ⟨_, hmem, beq_self_eq_true token⟩
  rw [release, if_pos hany]

/-- A token without a handle gives its children to its parent. -/
theorem release_of_gone (hgone : ∀ name, (name, token) ∉ f.handles) : f.release token =
    { f with
      tokens := f.tokens.map fun t =>
        if t.parent = some token then { t with parent := f.parent? token } else t } := by
  have hany : f.handles.any (·.2 == token) = false := by
    rw [List.any_eq_false]
    rintro ⟨name, other⟩ hmem heq
    exact hgone name (beq_iff_eq.mp heq ▸ hmem)
  rw [release, hany]
  rfl

theorem token?_release (f : Forest) (token : Nat) (name : String) :
    (f.release token).token? name = f.token? name := by
  rw [release]
  split_ifs <;> rfl

/-! ### What the parts of a step do -/

theorem parent?_push (f : Forest) (token : Token) (place : Nat) :
    (f.push token).parent? place = if place = f.tokens.length then token.parent else f.parent? place := by
  rw [parent?, push, List.getElem?_append]
  split_ifs <;> grind [parent?]

theorem isCancelled_push (f : Forest) (token : Token) (place : Nat) :
    (f.push token).isCancelled place =
      if place = f.tokens.length then token.cancelled else f.isCancelled place := by
  rw [isCancelled, push, List.getElem?_append]
  split_ifs <;> grind [isCancelled]

theorem parent?_of_length_le (hle : f.tokens.length ≤ place) : f.parent? place = none := by
  rw [parent?, List.getElem?_eq_none hle]
  rfl

/-- The children of a token that is gone have its parent. -/
theorem parent?_release (hgone : ∀ name, (name, token) ∉ f.handles) (place : Nat) :
    (f.release token).parent? place =
      if f.parent? place = some token then f.parent? token else f.parent? place := by
  have hplace : f.parent? place = f.tokens[place]?.bind Token.parent := rfl
  rw [hplace, release_of_gone hgone, Forest.parent?]
  dsimp only
  rw [List.getElem?_map]
  cases f.tokens[place]? with
  | none => rfl
  | some t =>
    simp only [Option.map_some, Option.bind_some]
    split_ifs <;> rfl

theorem isCancelled_release (f : Forest) (token place : Nat) :
    (f.release token).isCancelled place = f.isCancelled place := by
  rw [release]
  split_ifs
  · rfl
  · rw [isCancelled, isCancelled, List.getElem?_map]
    cases f.tokens[place]? with
    | none => rfl
    | some t =>
      simp only [Option.map_some]
      split_ifs <;> rfl

theorem parent?_mark (f : Forest) (token place : Nat) : (f.mark token).parent? place = f.parent? place := by
  rw [parent?, parent?, mark, List.getElem?_mapIdx]
  cases f.tokens[place]? with
  | none => rfl
  | some t =>
    simp only [Option.map_some, Option.bind_some]
    split_ifs <;> rfl

/-- What hangs on a token is what ascends to it. There are enough steps for all that stands before. -/
theorem hangsOn_iff (falls : Falls f.parent?) {steps : Nat} (hsteps : place ≤ steps) :
    f.hangsOn token steps (some place) = true ↔ Ascends f.parent? place token := by
  induction steps generalizing place with
  | zero =>
    -- The first token hangs on none, so that no step is needed from there.
    have hplace : place = 0 := Nat.le_zero.mp hsteps
    have htop : f.parent? place = none := by
      cases hp : f.parent? place with
      | none => rfl
      | some p =>
        have := falls hp
        omega
    rw [ascends_of_top htop, hangsOn, beq_iff_eq, eq_comm]
  | succ steps ih =>
    rw [hangsOn, Bool.or_eq_true, beq_iff_eq]
    cases hp : f.parent? place with
    | none =>
      rw [ascends_of_top hp]
      have hnone : f.tokens[place]?.bind Token.parent = none := hp
      rw [hnone, hangsOn]
      simp [eq_comm]
    | some p =>
      -- The parent stands before, so that one step less is enough for it.
      have := falls hp
      have hsome : f.tokens[place]?.bind Token.parent = some p := hp
      rw [ascends_of_parent hp, hsome, ih (by omega), eq_comm]

/-- A token is marked with all that ascends to it. -/
theorem isCancelled_mark (falls : Falls f.parent?) (htoken : token < f.tokens.length) :
    (f.mark token).isCancelled place = true ↔
      Ascends f.parent? place token ∨ f.isCancelled place = true := by
  rw [isCancelled, isCancelled, mark, List.getElem?_mapIdx]
  cases hplace : f.tokens[place]? with
  | none =>
    -- Where no token is, nothing hangs on one, and nothing is marked.
    have hle : f.tokens.length ≤ place := List.getElem?_eq_none_iff.mp hplace
    rw [ascends_of_top (parent?_of_length_le hle)]
    simp only [Option.map_none, Option.getD_none, Bool.false_eq_true, or_false, false_iff]
    omega
  | some t =>
    have hlt : place < f.tokens.length := List.getElem?_eq_some_iff.mp hplace |>.1
    rw [← hangsOn_iff falls (Nat.le_of_lt hlt)]
    simp only [Option.map_some, Option.getD_some]
    split_ifs with hhangs
    · simp [hhangs]
    · simp [hhangs]

/-! ### Tokens against their history -/

/-- The tokens of a forest are those of a history, and each one that is kept is reached from what descends
from it. -/
structure Tracks (f : Forest) (h : History) (keep : Nat → Prop) : Prop where
  size : f.tokens.length = h.origins.length
  falls : Falls f.parent?
  ordered : h.Ordered
  kept_lt : ∀ token, keep token → token < h.origins.length
  above : ∀ token, keep token → ∀ place, Ascends f.parent? place token ↔ h.Descends place token
  /-- A token is marked if it or one that it descends from was asked to be cancelled. -/
  marked : ∀ place, f.isCancelled place = true ↔ h.Ended place

variable {h : History} {keep keep' : Nat → Prop}

theorem Tracks.mono (tracks : Tracks f h keep) (hkeep : ∀ token, keep' token → keep token) :
    Tracks f h keep' :=
  { tracks with
    kept_lt := fun token ht => tracks.kept_lt token (hkeep token ht)
    above := fun token ht => tracks.above token (hkeep token ht) }

/-- A token that is made is kept, and is marked if the one it is made from is. -/
theorem Tracks.push (tracks : Tracks f h keep) {origin? : Option Nat}
    (horigin : ∀ parent, origin? = some parent → keep parent) :
    Tracks (f.push ⟨origin?, origin?.any f.isCancelled⟩) (h.make origin?)
      fun token => keep token ∨ token = h.origins.length := by
  have hbefore : ∀ parent, origin? = some parent → parent < h.origins.length :=
    fun parent hp => tracks.kept_lt parent (horigin parent hp)
  have hpush := f.parent?_push ⟨origin?, origin?.any f.isCancelled⟩
  rw [tracks.size] at hpush
  have htops : ∀ i, h.origins.length ≤ i → f.parent? i = none := by
    intro i hi
    exact parent?_of_length_le (tracks.size ▸ hi)
  have hsize : (h.make origin?).origins.length = h.origins.length + 1 := List.length_append
  refine ⟨?_, falls_push tracks.falls hpush hbefore, tracks.ordered.make hbefore, ?_, ?_, ?_⟩
  · rw [hsize, ← tracks.size]
    exact List.length_append
  · rintro token (ht | rfl)
    · have := tracks.kept_lt token ht
      omega
    · omega
  · -- Both sides are extended in the same way: `ascends_push_iff` reads the new place off its parent.
    rintro token (ht | rfl) place
    · have hne : token ≠ h.origins.length := Nat.ne_of_lt (tracks.kept_lt token ht)
      rw [ascends_push_iff tracks.falls htops hpush hbefore hne,
        tracks.ordered.descends_make_iff hbefore hne]
      simp only [tracks.above token ht]
    · rw [ascends_push_last_iff tracks.falls htops hpush hbefore,
        tracks.ordered.descends_make_last_iff hbefore]
  · intro place
    rw [isCancelled_push, tracks.ordered.ended_make_iff hbefore, tracks.size]
    split_ifs
    · simp only [← tracks.marked, Option.any_eq_true]
    · exact tracks.marked place

/-- **A token that goes is passed by.** What stays is reached as before. -/
theorem Tracks.release (tracks : Tracks f h keep) (hkeep : ∀ token, keep' token → keep token)
    (hgone : (∀ name, (name, token) ∉ f.handles) → ¬ keep' token) : Tracks (f.release token) h keep' := by
  by_cases hmem : ∃ name, (name, token) ∈ f.handles
  · obtain ⟨name, hmem⟩ := hmem
    rw [release_of_mem hmem]
    exact tracks.mono hkeep
  · have hnone : ∀ name, (name, token) ∉ f.handles := not_exists.mp hmem
    have hbypass := parent?_release hnone
    have hsize : (f.release token).tokens.length = f.tokens.length := by
      rw [release_of_gone hnone]
      exact List.length_map _
    refine ⟨hsize.trans tracks.size, falls_bypass tracks.falls hbypass, tracks.ordered, ?_, ?_, ?_⟩
    · intro kept ht
      exact tracks.kept_lt kept (hkeep kept ht)
    · -- What is kept has a handle, and so is not the token that is passed by.
      intro kept ht place
      have hne : kept ≠ token := fun heq => hgone hnone (heq ▸ ht)
      rw [ascends_bypass_iff tracks.falls hbypass hne, tracks.above kept (hkeep kept ht)]
    · intro place
      rw [isCancelled_release, tracks.marked]

/-- A token that is cancelled is marked with all that descend from it. -/
theorem Tracks.mark (tracks : Tracks f h keep) (ht : keep token) :
    Tracks (f.mark token) (h.call token) keep := by
  have hparents : (f.mark token).parent? = f.parent? := funext (f.parent?_mark token)
  have htoken := tracks.kept_lt token ht
  refine ⟨?_, ?_, ⟨tracks.ordered.falls, ?_⟩, tracks.kept_lt, ?_, ?_⟩
  · exact List.length_mapIdx.trans tracks.size
  · rw [hparents]
    exact tracks.falls
  · intro called hcalled
    rcases List.mem_cons.mp hcalled with rfl | hcalled
    · exact htoken
    · exact tracks.ordered.called_lt called hcalled
  · rw [hparents]
    exact tracks.above
  · intro place
    rw [isCancelled_mark tracks.falls (tracks.size ▸ htoken), History.ended_call_iff, tracks.above token ht,
      tracks.marked]

/-- Names say nothing of what tokens hang on. -/
theorem Tracks.of_eq (tracks : Tracks f h keep) {f' : Forest} {h' : History} (htokens : f'.tokens = f.tokens)
    (horigins : h'.origins = h.origins) (hcalled : h'.called = h.called) : Tracks f' h' keep := by
  cases f
  cases f'
  cases h
  cases h'
  subst htokens horigins hcalled
  exact ⟨tracks.size, tracks.falls, ⟨tracks.ordered.falls, tracks.ordered.called_lt⟩, tracks.kept_lt,
    tracks.above, tracks.marked⟩

/-! ### Steps -/

/-- The handles of a forest are on the tokens that the names of a history are on, and these are kept. -/
structure Follows (f : Forest) (h : History) : Prop where
  names : ∀ name, f.token? name = h.names name
  tracks : Tracks f h h.Live

theorem tracks_empty : Tracks empty .empty fun _ => False where
  size := rfl
  falls hparent := by cases hparent
  ordered := History.ordered_empty
  kept_lt _ := False.elim
  above _ _ _ := Iff.rfl
  marked place := by
    constructor
    · intro hcancelled
      cases hcancelled
    · rintro ⟨above, hcalled, -⟩
      cases hcalled

theorem follows_empty : Follows empty .empty where
  names _ := rfl
  tracks := tracks_empty.mono fun _ ⟨_, hname⟩ => by cases hname

/-- A token goes when the last name is off it. -/
theorem Follows.release (names : ∀ name, f.token? name = h.names name) (tracks : Tracks f h keep)
    (hkeep : ∀ token, h.Live token → keep token) (token : Nat) : Follows (f.release token) h where
  names name := by rw [token?_release, names]
  tracks := tracks.release hkeep fun hgone ⟨name, hname⟩ =>
    hgone name (mem_handles_of_token? ((names name).trans hname))

/-- A name is put on a token that is kept. -/
theorem Follows.bind (names : ∀ name, f.token? name = h.names name) (tracks : Tracks f h keep)
    (hkeep : ∀ other, h.Live other → keep other) (htoken : keep token) (name : String) :
    Follows (f.bind name token) (h.name name (some token)) := by
  have hnames : ∀ other, (f.rename name token).token? other = (h.name name (some token)).names other := by
    intro other
    rw [token?_rename, names]
    rfl
  have htracks : Tracks (f.rename name token) (h.name name (some token)) keep := tracks.of_eq rfl rfl rfl
  have hlive : ∀ other, (h.name name (some token)).Live other → keep other := by
    intro other ho
    rcases History.live_name ho with ho | rfl
    · exact hkeep other ho
    · exact htoken
  rw [bind_eq]
  cases f.token? name with
  | none => exact ⟨hnames, htracks.mono hlive⟩
  | some earlier => exact .release hnames htracks hlive earlier

/-- A name is taken away. -/
theorem Follows.drop (follows : Follows f h) (name : String) :
    Follows (f.drop name) (h.name name none) := by
  have hnames : ∀ other, (f.unname name).token? other = (h.name name none).names other := by
    intro other
    rw [token?_unname, follows.names]
    rfl
  have hlive : ∀ other, (h.name name none).Live other → h.Live other := fun _ => History.live_of_name_none
  rw [drop_eq]
  cases htoken : f.token? name with
  | none =>
    -- The name was on no token, so that taking it away from the history changes nothing either.
    refine ⟨?_, (follows.tracks.mono hlive).of_eq rfl rfl rfl⟩
    intro other
    rw [← hnames, token?_unname]
    split_ifs with hname
    · exact hname ▸ htoken
    · rfl
  | some token => exact .release hnames (follows.tracks.of_eq rfl rfl rfl) hlive token

/-- A token is made with a name on it. -/
theorem Follows.grow (follows : Follows f h) (origin? : Option Nat)
    (horigin : ∀ parent, origin? = some parent → h.Live parent) (name : String) :
    Follows (f.grow name ⟨origin?, origin?.any f.isCancelled⟩)
      ((h.make origin?).name name (some h.origins.length)) := by
  have hgrow : f.grow name ⟨origin?, origin?.any f.isCancelled⟩ =
      (f.push ⟨origin?, origin?.any f.isCancelled⟩).bind name f.tokens.length := rfl
  have htracks := follows.tracks.push horigin
  rw [hgrow, follows.tracks.size]
  exact Follows.bind (f := f.push _) (h := h.make origin?) follows.names htracks (fun _ => Or.inl) (Or.inr rfl) name

/-- **Every step keeps a forest along its history.** -/
theorem Follows.step (follows : Follows f h) (step : Step) : Follows (f.step step) (h.step step) := by
  cases step with
  | new name => exact follows.grow none (fun _ hnone => by cases hnone) name
  | clone name source =>
    rw [Forest.step, History.step, follows.names]
    cases hsource : h.names source with
    | none => exact follows
    | some token => exact .bind follows.names follows.tracks (fun _ => id) ⟨source, hsource⟩ name
  | child name source =>
    rw [Forest.step, History.step, follows.names]
    cases hsource : h.names source with
    | none => exact follows
    | some token =>
      refine follows.grow (some token) ?_ name
      intro parent hparent
      exact ⟨source, hsource.trans hparent⟩
  | cancel name =>
    rw [Forest.step, History.step, follows.names]
    cases hname : h.names name with
    | none => exact follows
    | some token => exact ⟨follows.names, follows.tracks.mark ⟨name, hname⟩⟩
  | drop name => exact follows.drop name

/-- Steps after a forest and after its history keep the two together. -/
theorem Follows.run (follows : Follows f h) (steps : List Step) :
    Follows (steps.foldl Forest.step f) (steps.foldl History.step h) := by
  induction steps generalizing f h with
  | nil => exact follows
  | cons step steps ih => exact ih (follows.step step)

theorem follows_ofSteps (steps : List Step) : Follows (ofSteps steps) (.ofSteps steps) :=
  follows_empty.run steps

/-! ### What steps come to -/

/-- A token is cancelled if it or one that it descends from was asked to be. -/
theorem Follows.isCancelled_iff (follows : Follows f h) : f.isCancelled token = true ↔ h.Ended token :=
  follows.tracks.marked token

/-- Cancelling a token cancels what descends from it, and nothing else. -/
theorem Follows.isCancelled_cancel_iff (follows : Follows f h) (hname : h.names name = some token) :
    (f.step (.cancel name)).isCancelled place = true ↔
      h.Descends place token ∨ f.isCancelled place = true := by
  have hstep : h.step (.cancel name) = h.call token := by rw [History.step, hname]
  rw [(follows.step _).isCancelled_iff, hstep, History.ended_call_iff, follows.isCancelled_iff]

/-- Cancelling a token leaves those beside it as they are. -/
theorem Follows.isCancelled_cancel_of_beside (follows : Follows f h) (hname : h.names name = some token)
    (hbeside : h.Beside token place) : (f.step (.cancel name)).isCancelled place = f.isCancelled place := by
  rw [Bool.eq_iff_iff, follows.isCancelled_cancel_iff hname]
  exact or_iff_right (follows.tracks.ordered.not_descends_of_beside hbeside)

/-- No step takes a cancellation back. -/
theorem Follows.isCancelled_step (follows : Follows f h) (step : Step)
    (hcancelled : f.isCancelled token = true) : (f.step step).isCancelled token = true :=
  (follows.step step).isCancelled_iff.mpr ((follows.isCancelled_iff.mp hcancelled).step step)

theorem check_eq_error_iff : f.check token = .error .shuttingDown ↔ f.isCancelled token = true := by
  rw [check]
  split_ifs with hcancelled <;> simp [hcancelled]

theorem check_eq_ok_iff : f.check token = .ok () ↔ f.isCancelled token = false := by
  rw [check]
  split_ifs with hcancelled <;> simp [hcancelled]

theorem wait_eq_over_iff : f.wait token = .over ↔ f.isCancelled token = true := by
  rw [wait]
  split_ifs with hcancelled <;> simp [hcancelled]

/-- **Cancellation follows ancestry.** After any steps, names are on the tokens that the history tells, and one
of these is cancelled if some handle on it, or on one that it descends from, was used to cancel, however long
ago, and whichever tokens between the two are gone. Cancelling a token cancels what descends from it; what it
descends from itself, and what was made from the same token, stays as it is. No step takes a cancellation back,
and to ask for it, to check for it and to wait for it tell the same. -/
theorem isCancelled_ofSteps (steps : List Step) :
    let f := ofSteps steps
    let h := History.ofSteps steps
    (∀ name, f.token? name = h.names name) ∧
    (∀ name token, h.names name = some token →
      (f.isCancelled token = true ↔ ∃ above ∈ h.called, h.Descends token above)) ∧
    (∀ name token, h.names name = some token →
      (∀ other, (f.step (.cancel name)).isCancelled other = true ↔
        h.Descends other token ∨ f.isCancelled other = true) ∧
      ∀ other, h.Beside token other →
        (f.step (.cancel name)).isCancelled other = f.isCancelled other) ∧
    (∀ step token, f.isCancelled token = true → (f.step step).isCancelled token = true) ∧
    ∀ token, (f.check token = .error .shuttingDown ↔ f.isCancelled token = true) ∧
      (f.check token = .ok () ↔ f.isCancelled token = false) ∧
      (f.wait token = .over ↔ f.isCancelled token = true) := by
  intro f h
  have follows : Follows f h := follows_ofSteps steps
  refine ⟨follows.names, fun _ _ _ => follows.isCancelled_iff, fun name token hname => ⟨?_, ?_⟩,
    fun step _ => follows.isCancelled_step step, fun _ => ⟨check_eq_error_iff, check_eq_ok_iff, wait_eq_over_iff⟩⟩
  · intro other
    exact follows.isCancelled_cancel_iff hname
  · intro other hbeside
    exact follows.isCancelled_cancel_of_beside hname hbeside

/-- A token hears of the cancellation of one that it descends from through one that is gone, and does not pass
its own on to it. -/
theorem isCancelled_ofSteps_dropped :
    let steps : List Step := [.new "p", .child "c" "p", .child "g" "c", .drop "c"]
    let h := History.ofSteps steps
    h.names "p" = some 0 ∧ h.names "c" = none ∧ h.names "g" = some 2 ∧ h.Descends 2 0 ∧
      ((ofSteps steps).step (.cancel "p")).isCancelled 2 = true ∧
      ((ofSteps steps).step (.cancel "g")).isCancelled 0 = false := by
  intro steps h
  have hdescends : h.Descends 2 0 := .tail (.tail .refl rfl) rfl
  obtain ⟨_, _, hcancel, _⟩ := isCancelled_ofSteps steps
  refine ⟨rfl, rfl, rfl, hdescends, ?_, ?_⟩
  · exact ((hcancel "p" 0 rfl).1 2).mpr (.inl hdescends)
  · exact (hcancel "g" 2 rfl).2 0 ⟨by decide, .inl hdescends⟩

end Forest

end SchemaCatalog
