import Mathlib.Logic.Relation
import TrustPath.Proofs.Path.Progress

/-!
# What the calls of a search find and leave behind

The search calls itself for each certificate that it puts on the path. All
calls share one state, so what a call changes and does not put back would
be seen by the calls after it. This file says what each call of a search
finds at its start (`AtStart`), and what it leaves behind when it finds no
path (`Restored`): path and mask as they were, and of the rest nothing
lost. When the budget runs out in a call, every call in whose course it
was made ends without a path (`backtracking`).

The calls are those of an actual search: `Makes` relates a call to the
calls that it makes itself, by the rounds over the pool that come before
them (`Passes`), and the calls of a search are what the first one leads to
(`Called`). The relation misses none: a call depends on the calls it makes
and on no others (`extend_eq_of_makes`).

What a call finds is an invariant (`Sound`), kept from call to call. At
each certificate of a round the state is that of the start of the round,
but for what only grows (`Between`); there the calls made before enter
with the fact that they put path and mask back, which is known from what
the search explores (`extend_explores`).
-/

namespace TrustPath

/-- A call of the search: the certificates there is room for, and the
state at the start. -/
structure SearchCall where
  room : Nat
  state : SearchState

namespace PathProblem

open Relation (ReflTransGen)

/-! ## The calls of a search -/

/-- What a call comes to. -/
def outcome (p : PathProblem) (call : SearchCall) : Option BuiltPath × SearchState :=
  p.extend call.room call.state

def firstCall (p : PathProblem) : SearchCall := ⟨maxIssuers, .start p.pool.length⟩

/-- A round over the pool comes from one certificate to the next: it may
not go on the path; it did not issue the last one; or it did, and from
there nothing was found, with the budget not used up. -/
inductive Passes (p : PathProblem) (next : SearchState → Option BuiltPath × SearchState) :
    List (Certificate × Nat) × SearchState → List (Certificate × Nat) × SearchState → Prop
  | stale {c : Certificate} {i : Nat} {rest : List (Certificate × Nat)} {s : SearchState}
      (hfresh : p.isFresh s c i = false) : Passes p next ((c, i) :: rest, s) (rest, s)
  | foreign {c : Certificate} {i : Nat} {rest : List (Certificate × Nat)} {s s₁ : SearchState}
      (hfresh : p.isFresh s c i = true)
      (hissued : p.issuedBy s (p.current s) (.pool i, c) = (false, s₁)) :
      Passes p next ((c, i) :: rest, s) (rest, s₁)
  | failed {c : Certificate} {i : Nat} {rest : List (Certificate × Nat)} {s s₁ s₂ : SearchState}
      (hfresh : p.isFresh s c i = true)
      (hissued : p.issuedBy s (p.current s) (.pool i, c) = (true, s₁))
      (hnext : next (s₁.push i c) = (none, s₂)) (hgoesOn : (s₂.pop i).budgetExceeded = false) :
      Passes p next ((c, i) :: rest, s) (rest, s₂.pop i)

/-- One call makes another, for a certificate to which a round over the
pool has come and which issued the last one of the path. -/
inductive Makes (p : PathProblem) : SearchCall → SearchCall → Prop
  | call {room i : Nat} {c : Certificate} {rest : List (Certificate × Nat)}
      {s s₁ s₂ s₃ : SearchState} (hvisit : p.visit s = (.extendable, s₁))
      (hround : ReflTransGen (p.Passes (p.extend room)) (p.pool.zipIdx, s₁) ((c, i) :: rest, s₂))
      (hfresh : p.isFresh s₂ c i = true)
      (hissued : p.issuedBy s₂ (p.current s₂) (.pool i, c) = (true, s₃)) :
      Makes p ⟨room + 1, s⟩ ⟨room, s₃.push i c⟩

/-- The calls of a search. -/
def Called (p : PathProblem) (call : SearchCall) : Prop := ReflTransGen p.Makes p.firstCall call

section

variable {p : PathProblem} {next : SearchState → Option BuiltPath × SearchState}

/-- A round comes to the same from each certificate that it comes to. -/
theorem Passes.tryPool_eq {x y : List (Certificate × Nat) × SearchState}
    (h : p.Passes next x y) : p.tryPool next x.1 x.2 = p.tryPool next y.1 y.2 := by
  cases h with
  | stale hfresh =>
      rw [tryPool, hfresh]
      rfl
  | foreign hfresh hissued =>
      rw [tryPool, if_pos hfresh, hissued]
  | failed hfresh hissued hnext hgoesOn =>
      rw [tryPool, if_pos hfresh, hissued]
      dsimp only
      rw [hnext]
      dsimp only
      rw [hgoesOn, if_neg Bool.false_ne_true]

theorem tryPool_eq_of_passes {x y : List (Certificate × Nat) × SearchState}
    (h : ReflTransGen (p.Passes next) x y) : p.tryPool next x.1 x.2 = p.tryPool next y.1 y.2 := by
  induction h with
  | refl => rfl
  | tail _ hpass ih => exact ih.trans hpass.tryPool_eq

/-- A round depends on the calls that it makes. -/
theorem tryPool_congr {next' : SearchState → Option BuiltPath × SearchState} :
    ∀ {l : List (Certificate × Nat)} {s : SearchState},
      (∀ c i rest s₁ s₂, ReflTransGen (p.Passes next) (l, s) ((c, i) :: rest, s₁) →
        p.isFresh s₁ c i = true → p.issuedBy s₁ (p.current s₁) (.pool i, c) = (true, s₂) →
        next' (s₂.push i c) = next (s₂.push i c)) →
      p.tryPool next' l s = p.tryPool next l s
  | [], _, _ => rfl
  | (c, i) :: rest, s, h => by
      -- the calls that the rest of the round makes are calls of the round
      have hrest : ∀ {s₁}, p.Passes next ((c, i) :: rest, s) (rest, s₁) →
          p.tryPool next' rest s₁ = p.tryPool next rest s₁ :=
        fun hpass => tryPool_congr fun c' i' rest' s₁ s₂ hround =>
          h c' i' rest' s₁ s₂ (hround.head hpass)
      rw [tryPool, tryPool]
      cases hfresh : p.isFresh s c i with
      | false => exact hrest (.stale hfresh)
      | true =>
          rw [if_pos rfl, if_pos rfl]
          rcases hissued : p.issuedBy s (p.current s) (.pool i, c) with ⟨answer, s₁⟩
          cases answer with
          | false => exact hrest (.foreign hfresh hissued)
          | true =>
              dsimp only
              rw [h c i rest s s₁ .refl hfresh hissued]
              rcases hsearch : next (s₁.push i c) with ⟨_ | built, s₂⟩
              · dsimp only
                cases hend : (s₂.pop i).budgetExceeded with
                | true => rfl
                | false => exact hrest (.failed hfresh hissued hsearch hend)
              · rfl

/-- A call depends on the calls that it makes and on no others: in its
place any function serves that answers those. -/
theorem extend_eq_of_makes {room : Nat} {s : SearchState}
    (h : ∀ inner, p.Makes ⟨room + 1, s⟩ inner → next inner.state = p.outcome inner) :
    p.outcome ⟨room + 1, s⟩ = match p.visit s with
      | (.found built, s) => (some built, s)
      | (.deadEnd, s) => (none, s)
      | (.extendable, s) => p.tryPool next p.pool.zipIdx s := by
  rw [outcome, extend]
  rcases hvisit : p.visit s with ⟨_ | _ | _, s₁⟩
  · rfl
  · rfl
  · exact (tryPool_congr fun c i rest s₂ s₃ hround hfresh hissued =>
      h _ (.call hvisit hround hfresh hissued)).symm

end

/-! ## What a call finds -/

/-- What holds at the start of a call. -/
structure Sound (p : PathProblem) (call : SearchCall) : Prop where
  consistent : p.Consistent call.state
  grounded : p.Grounded call.state
  reached : p.Reached (above call.state)
  room : call.room + call.state.issuers.length = 31
  size : call.state.used.length = p.pool.length

/-- Where a round over the pool has come that began in a state: to the
certificates that are left, and a state with the same path and mask. -/
structure Between (p : PathProblem) (s : SearchState)
    (x : List (Certificate × Nat) × SearchState) : Prop where
  slots : ∀ y ∈ x.1, p.pool[y.2]? = some y.1
  consistent : p.Consistent x.2
  grounded : p.Grounded x.2
  issuers : x.2.issuers = s.issuers
  used : x.2.used = s.used

section

variable {p : PathProblem} {s s₁ s₂ : SearchState} {c : Certificate} {i room : Nat}
  {rest : List (Certificate × Nat)}

theorem sound_firstCall (p : PathProblem) : p.Sound p.firstCall where
  consistent := consistent_start p
  grounded := grounded_start p
  reached := .target
  room := rfl
  size := List.length_replicate

theorem Between.tail (h : p.Between s ((c, i) :: rest, s₁)) : p.Between s (rest, s₁) :=
  ⟨(List.forall_mem_cons.mp h.slots).2, h.consistent, h.grounded, h.issuers, h.used⟩

/-- The check whether a certificate issued the last one leaves path and
mask alone. -/
theorem Between.checked (h : p.Between s ((c, i) :: rest, s₁)) {answer : Bool}
    (hissued : p.issuedBy s₁ (p.current s₁) (.pool i, c) = (answer, s₂)) :
    p.Between s ((c, i) :: rest, s₂)
      ∧ answer = p.issues c (p.lastOf (above s)) := by
  have hslot := (List.forall_mem_cons.mp h.slots).1
  obtain ⟨hanswer, hquiet, -⟩ := issuedBy_current h.consistent (.pool i, c) hslot hissued
  rw [above_eq h.issuers] at hanswer
  exact ⟨⟨h.slots, hquiet.consistent h.consistent,
    (issuedBy_onward (.pool i, c) hslot hissued).grounded h.grounded,
    hquiet.issuers.trans h.issuers, hquiet.used.trans h.used⟩, hanswer⟩

/-- A certificate that is put on the path extends it, and its position was
free. -/
theorem Between.extends_path (h : p.Between s ((c, i) :: rest, s₁))
    (hfresh : p.isFresh s₁ c i = true) (hissues : p.issues c (p.lastOf (above s)) = true) :
    c ∈ p.extensions (above s) ∧ s₁.used[i]? = some false := by
  have hslot := (List.forall_mem_cons.mp h.slots).1
  rw [isFresh_eq h.consistent hslot] at hfresh
  refine ⟨List.mem_filter.mpr ⟨List.mem_of_getElem? hslot, ?_⟩,
    h.consistent.used_of_fresh hslot hfresh⟩
  rw [hissues, Bool.true_and, ← above_eq h.issuers]
  exact hfresh

/-- Where a call comes to that finds nothing, path and mask are as before
it was made. -/
theorem Between.returned (h : p.Between s ((c, i) :: rest, s₁))
    (hroom : room + 1 + s.issuers.length = 31) (hfree : s₁.used[i]? = some false)
    (hnext : p.extend room (s₁.push i c) = (none, s₂)) (hgoesOn : (s₂.pop i).budgetExceeded = false) :
    p.Between s (rest, s₂.pop i) := by
  have hslot := (List.forall_mem_cons.mp h.slots).1
  have hpushed : room + (s₁.push i c).issuers.length = 31 := by
    show room + (s₁.issuers.length + 1) = 31
    rw [h.issuers]
    omega
  have hexplores := extend_explores room (s₁.push i c) (h.consistent.push hslot hfree) hpushed
  rw [hnext] at hexplores
  have hback := (hexplores.pop hfree).failed rfl
  have honward := (onward_push hslot).trans (onward_tick.trans (extend_onward room (s₁.push i c)))
  rw [hnext] at honward
  exact ⟨h.tail.slots, hback.consistent h.consistent hgoesOn,
    (honward.trans (onward_pop i)).grounded h.grounded, hback.issuers.trans h.issuers,
    hback.used.trans h.used⟩

theorem Between.passes (hroom : room + 1 + s.issuers.length = 31)
    {x y : List (Certificate × Nat) × SearchState} (h : p.Between s x)
    (hpass : p.Passes (p.extend room) x y) : p.Between s y := by
  cases hpass with
  | stale => exact h.tail
  | foreign _ hissued => exact (h.checked hissued).1.tail
  | @failed c i rest s₁ s₂ s₃ hfresh hissued hnext hgoesOn =>
      obtain ⟨hbetween, hissues⟩ := h.checked hissued
      have hfree := (h.extends_path hfresh hissues.symm).2
      rw [h.used, ← hbetween.used] at hfree
      exact hbetween.returned hroom hfree hnext hgoesOn

theorem Between.round (hroom : room + 1 + s.issuers.length = 31)
    {x y : List (Certificate × Nat) × SearchState} (h : p.Between s x)
    (hround : ReflTransGen (p.Passes (p.extend room)) x y) : p.Between s y := by
  induction hround with
  | refl => exact h
  | tail _ hpass ih => exact ih.passes hroom hpass

/-- The round of a call begins with the path and mask of the call. -/
theorem Sound.between (h : p.Sound ⟨room + 1, s⟩) (hvisit : p.visit s = (.extendable, s₁)) :
    p.Between s (p.pool.zipIdx, s₁) ∧ p.hasRoom (above s) = true := by
  rcases visit_cases h.consistent with ⟨s', hdead, -⟩ | ⟨-, s', hdead, -⟩ | ⟨built, s', hfound, -⟩ |
    ⟨hlimit, s', hextendable, hgoesOn, hexplores⟩
  · rw [hdead] at hvisit; cases hvisit
  · rw [hdead] at hvisit; cases hvisit
  · rw [hfound] at hvisit; cases hvisit
  · obtain ⟨-, rfl⟩ := Prod.mk.inj (hextendable.symm.trans hvisit)
    have hexplored := hexplores.failed rfl
    refine ⟨⟨fun x hx => List.mem_zipIdx_iff_getElem?.mp hx,
      hexplored.consistent h.consistent hgoesOn,
      (onward_tick.trans (visit_onward hvisit)).grounded h.grounded, hexplored.issuers,
      hexplored.used⟩, ?_⟩
    refine hasRoom_iff.mpr ⟨?_, exceedsLimit_eq_false.mp hlimit⟩
    have hroom : room + 1 + s.issuers.length = 31 := h.room
    rw [above, List.length_map]
    omega

theorem Sound.makes {call inner : SearchCall} (h : p.Sound call) (hmakes : p.Makes call inner) :
    p.Sound inner := by
  cases hmakes with
  | @call room i c rest s s₁ s₂ s₃ hvisit hround hfresh hissued =>
      obtain ⟨hfirst, hasRoom⟩ := h.between hvisit
      have hbetween : p.Between s ((c, i) :: rest, s₂) := hfirst.round h.room hround
      obtain ⟨hchecked, hissues⟩ := hbetween.checked hissued
      obtain ⟨hextends, hfree⟩ := hbetween.extends_path hfresh hissues.symm
      rw [hbetween.used, ← hchecked.used] at hfree
      have hslot := (List.forall_mem_cons.mp hchecked.slots).1
      refine ⟨hchecked.consistent.push hslot hfree, (onward_push hslot).grounded hchecked.grounded,
        ?_, ?_, ?_⟩
      · show p.Reached (c :: above s₃)
        rw [above_eq hchecked.issuers]
        exact h.reached.extend hasRoom hextends
      · have hroom : room + 1 + s.issuers.length = 31 := h.room
        show room + (s₃.issuers.length + 1) = 31
        rw [hchecked.issuers]
        omega
      · show (s₃.used.set i true).length = p.pool.length
        rw [List.length_set, hchecked.used]
        exact h.size

theorem Called.sound {call : SearchCall} (h : p.Called call) : p.Sound call := by
  induction h with
  | refl => exact sound_firstCall p
  | tail _ hmakes ih => exact ih.makes hmakes

end

/-! ## When the budget is exceeded -/

section

variable {p : PathProblem}

theorem issuedBy_budgetExceeded {s s' : SearchState} {child issuer : Slot × Certificate}
    {answer : Bool} (h : p.issuedBy s child issuer = (answer, s')) :
    s'.budgetExceeded = s.budgetExceeded := by
  have hkept : (p.issuedBy s child issuer).2.budgetExceeded = s.budgetExceeded := by
    unfold issuedBy signedBy
    split
    · split <;> rfl
    · rfl
  rwa [h] at hkept

theorem tryAnchors_budgetExceeded : ∀ {l : List (Certificate × Nat)} {s : SearchState},
    (p.tryAnchors l s).2.budgetExceeded = s.budgetExceeded
  | [], s => rfl
  | (anchor, i) :: rest, s => by
      rw [tryAnchors]
      rcases hissued : p.issuedBy s (p.current s) (.anchor i, anchor) with ⟨answer, s₁⟩
      have hkept := issuedBy_budgetExceeded hissued
      cases answer with
      | false => exact tryAnchors_budgetExceeded.trans hkept
      | true =>
          dsimp only
          rcases p.checkUnder s₁ anchor with ⟨_ | _, lines⟩
          · exact tryAnchors_budgetExceeded.trans hkept
          · exact hkept

/-- The budget is used up by a look only if that is all it comes to. -/
theorem visit_budgetExceeded {s s' : SearchState} {outcome : Visit}
    (h : p.visit s = (outcome, s')) (hlive : outcome ≠ .deadEnd) :
    s'.budgetExceeded = s.budgetExceeded := by
  rcases p.visit_eq s with ⟨s₁, hvisit, -⟩ | hvisit
  · exact absurd (Prod.mk.inj (h.symm.trans hvisit)).1 hlive
  · obtain ⟨-, rfl⟩ := Prod.mk.inj (h.symm.trans hvisit)
    exact tryAnchors_budgetExceeded

theorem tryPool_eq_none {next : SearchState → Option BuiltPath × SearchState}
    (hnext : ∀ s, s.budgetExceeded = false → (next s).2.budgetExceeded = true →
      (next s).1 = none) : ∀ {l : List (Certificate × Nat)} {s : SearchState},
    s.budgetExceeded = false → (p.tryPool next l s).2.budgetExceeded = true →
      (p.tryPool next l s).1 = none
  | [], _, _ => fun _ => rfl
  | (c, i) :: rest, s, hs => by
      rw [tryPool]
      split
      · rcases hissued : p.issuedBy s (p.current s) (.pool i, c) with ⟨answer, s₁⟩
        have hs₁ := (issuedBy_budgetExceeded hissued).trans hs
        cases answer with
        | false => exact tryPool_eq_none hnext hs₁
        | true =>
            have hbelow := hnext (s₁.push i c) hs₁
            dsimp only
            rcases hsearch : next (s₁.push i c) with ⟨_ | built, s₂⟩
            · dsimp only
              split
              · exact fun _ => rfl
              · next hgoesOn => exact tryPool_eq_none hnext (Bool.eq_false_iff.mpr hgoesOn)
            · rw [hsearch] at hbelow
              exact hbelow
      · exact tryPool_eq_none hnext hs

/-- A call that ends with the budget used up finds no path. -/
theorem extend_eq_none : ∀ (room : Nat) (s : SearchState), s.budgetExceeded = false →
    (p.extend room s).2.budgetExceeded = true → (p.extend room s).1 = none
  | 0, s, hs => by
      rw [extend]
      rcases hvisit : p.visit s with ⟨built | _ | _, s₁⟩
      · have hkept := (visit_budgetExceeded hvisit (by simp)).trans hs
        exact fun hend => absurd (hkept.symm.trans hend) Bool.false_ne_true
      · exact fun _ => rfl
      · exact fun _ => rfl
  | room + 1, s, hs => by
      rw [extend]
      rcases hvisit : p.visit s with ⟨built | _ | _, s₁⟩
      · have hkept := (visit_budgetExceeded hvisit (by simp)).trans hs
        exact fun hend => absurd (hkept.symm.trans hend) Bool.false_ne_true
      · exact fun _ => rfl
      · have hkept := (visit_budgetExceeded hvisit (by simp)).trans hs
        exact tryPool_eq_none (extend_eq_none room) hkept

/-- A call ends without a path and with the budget used up if a call that
it makes does. -/
theorem Makes.exceeded {call inner : SearchCall} (h : p.Makes call inner)
    (hinner : (p.outcome inner).1 = none ∧ (p.outcome inner).2.budgetExceeded = true) :
    (p.outcome call).1 = none ∧ (p.outcome call).2.budgetExceeded = true := by
  cases h with
  | @call room i c rest s s₁ s₂ s₃ hvisit hround hfresh hissued =>
      unfold outcome at hinner ⊢
      rw [extend, hvisit]
      dsimp only
      -- the round comes to the certificate, makes the call, and stops by what it left
      rw [tryPool_eq_of_passes hround]
      dsimp only
      rw [tryPool, if_pos hfresh, hissued]
      dsimp only at hinner ⊢
      rcases hsearch : p.extend room (s₃.push i c) with ⟨_ | built, t⟩
      · rw [hsearch] at hinner
        have hend : (t.pop i).budgetExceeded = true := hinner.2
        dsimp only
        rw [if_pos hend]
        exact ⟨rfl, hend⟩
      · rw [hsearch] at hinner
        cases hinner.1

/-- So it is with every call in whose course the budget is used up. -/
theorem Called.exceeded {call inner : SearchCall} (hcall : p.Called call)
    (hcourse : ReflTransGen p.Makes call inner)
    (hend : (p.outcome inner).2.budgetExceeded = true) :
    (p.outcome call).1 = none ∧ (p.outcome call).2.budgetExceeded = true := by
  have hstart : inner.state.budgetExceeded = false :=
    Called.sound (hcall.trans hcourse) |>.consistent.goesOn
  -- from the innermost call outwards
  induction hcourse using ReflTransGen.head_induction_on with
  | refl => exact ⟨extend_eq_none _ _ hstart hend, hend⟩
  | head hmakes _ ih => exact hmakes.exceeded (ih (hcall.tail hmakes))

end

/-! ## Backtracking -/

/-- The certificates of the path with their slots, the target first. -/
def entries (p : PathProblem) (s : SearchState) : List (Slot × Certificate) :=
  (.target, p.target) :: s.issuers.reverse.map fun x => (.pool x.1, x.2)

/-- What a call finds: a path of certificates that stand in their slots,
with different encodings, and as many as the room leaves of thirty-two; a
mask of the pool positions on the path; recalled answers that are those of
direct checks; and the budget not used up. -/
structure AtStart (p : PathProblem) (call : SearchCall) : Prop where
  inPlace : ∀ x ∈ p.entries call.state, p.at? x.1 = some x.2
  used : ∀ i, call.state.used[i]? = some true ↔ ∃ c, (.pool i, c) ∈ p.entries call.state
  distinct : (p.entries call.state).Pairwise fun x y => x.2.der ≠ y.2.der
  short : (p.entries call.state).length ≤ 32
  room : (p.entries call.state).length + call.room = 32
  verified : ∀ child issuer answer, ((child, issuer), answer) ∈ call.state.signatures →
    ∃ c d, p.at? child = some c ∧ p.at? issuer = some d ∧ answer = p.holds c.signed d.publicKey
  goesOn : call.state.budgetExceeded = false

/-- What a call leaves behind that finds nothing: path and mask as they
were, the partial path counted, and every answer still recalled. -/
structure Restored (p : PathProblem) (s s' : SearchState) : Prop where
  path : p.entries s' = p.entries s
  used : s'.used = s.used
  counted : s.steps < s'.steps
  recalls : ∀ slots answer, s.signatures.lookup slots = some answer →
    s'.signatures.lookup slots = some answer

section

variable {p : PathProblem}

theorem mem_entries {s : SearchState} {i : Nat} {c : Certificate} :
    (.pool i, c) ∈ p.entries s ↔ (i, c) ∈ s.issuers := by
  simp [entries]

theorem map_entries (p : PathProblem) (s : SearchState) :
    (p.entries s).map (·.2) = p.target :: (above s).reverse := by
  simp [entries, above]

theorem length_entries (p : PathProblem) (s : SearchState) :
    (p.entries s).length = s.issuers.length + 1 := by
  simp [entries]

theorem Sound.atStart {call : SearchCall} (h : p.Sound call) : p.AtStart call where
  inPlace := by
    refine List.forall_mem_cons.mpr ⟨rfl, fun x hx => ?_⟩
    obtain ⟨y, hy, rfl⟩ := List.mem_map.mp hx
    exact h.grounded.inPool y (List.mem_reverse.mp hy)
  used := by
    intro i
    simp only [mem_entries]
    by_cases hi : i < p.pool.length
    · have hget := List.getElem?_eq_getElem (h.size.symm ▸ hi)
      rw [← h.consistent.used i hi, List.getD_eq_getElem?_getD, hget, Option.getD_some,
        Option.some_inj]
    · -- past the pool the mask has no position, and the path no certificate
      refine iff_of_false (fun hused => hi ?_) (fun ⟨c, hc⟩ => hi ?_)
      · exact h.size ▸ (List.getElem?_eq_some_iff.mp hused).1
      · exact (List.getElem?_eq_some_iff.mp (h.grounded.inPool (i, c) hc)).1
  distinct := by
    have hdistinct := h.reached.distinct
    rwa [← map_entries, List.pairwise_map] at hdistinct
  short := by
    have hroom := h.room
    rw [length_entries]
    omega
  room := by
    have hroom := h.room
    rw [length_entries]
    omega
  verified := h.grounded.verified
  goesOn := h.consistent.goesOn

theorem Sound.restored {call : SearchCall} (h : p.Sound call) (hnone : (p.outcome call).1 = none) :
    p.Restored call.state (p.outcome call).2 := by
  have hexplored := (extend_explores call.room call.state h.consistent h.room).failed hnone
  have honward : p.Onward (tick call.state) (p.outcome call).2 := extend_onward _ _
  have hissuers : (p.outcome call).2.issuers = call.state.issuers := hexplored.issuers
  exact ⟨by rw [entries, entries, hissuers], hexplored.used, honward.steps, honward.recalls⟩

end

/-- Backtracking restores. Each call of a search finds the path and mask in
order and the recalled answers true; if it finds no path, it leaves path
and mask as they were, has counted on, and forgets no answer. A call in
whose course the budget is used up ends without a path and with the budget
used up, and no call, from whatever state, takes that back. -/
theorem backtracking (p : PathProblem) (call : SearchCall) (h : p.Called call) :
    p.AtStart call
    ∧ ((p.outcome call).1 = none → p.Restored call.state (p.outcome call).2)
    ∧ (∀ inner, ReflTransGen p.Makes call inner →
        (p.outcome inner).2.budgetExceeded = true →
          (p.outcome call).1 = none ∧ (p.outcome call).2.budgetExceeded = true)
    ∧ (∀ other : SearchCall, other.state.budgetExceeded = true →
        (p.outcome other).2.budgetExceeded = true) :=
  ⟨h.sound.atStart, h.sound.restored, fun _ hcourse hend => h.exceeded hcourse hend,
    fun other hset => (onward_tick.trans (extend_onward other.room other.state)).exceeded hset⟩

/-! ## A sample -/

/-- A certificate by its encoding alone; one of them may have issued any. -/
def sampleKnot (octet : UInt8) : Certificate :=
  { Certificate.bare "" "" [] with der := [octet], subject := ⟨[]⟩, issuer := ⟨[]⟩ }

/-- A target and two certificates each of which issued all, and no anchor
to lead to. -/
def sampleTangle : PathProblem where
  target := sampleKnot 0
  anchors := []
  pool := [sampleKnot 1, sampleKnot 2]
  crls := []
  parameters := ⟨-1, false, ⟨.empty, false, false, false⟩, 0⟩
  holds := fun _ _ => true

/-- The call for the first of the two certificates, after one look and one
check. -/
def sampleCall : SearchCall where
  room := 30
  state := { tick (.start 2) with signatures := [((.target, .pool 0), true)] }.push 0 (sampleKnot 1)

/-- The call goes on to the second certificate and back, and leaves path
and mask as they were. -/
theorem backtracking_tangle :
    sampleTangle.Called sampleCall ∧ sampleTangle.AtStart sampleCall
      ∧ (sampleTangle.outcome sampleCall).1 = none
      ∧ sampleTangle.Restored sampleCall.state (sampleTangle.outcome sampleCall).2 := by
  have hvisit : sampleTangle.visit (.start 2) = (.extendable, tick (.start 2)) := by rfl
  have hfresh : sampleTangle.isFresh (tick (.start 2)) (sampleKnot 1) 0 = true := by
    decide +kernel
  have hissued : sampleTangle.issuedBy (tick (.start 2))
      (sampleTangle.current (tick (.start 2))) (.pool 0, sampleKnot 1)
        = (true, { tick (.start 2) with signatures := [((.target, .pool 0), true)] }) := by rfl
  have hcalled : sampleTangle.Called sampleCall := .single (.call hvisit .refl hfresh hissued)
  have hnone : (sampleTangle.outcome sampleCall).1 = none :=
    Option.isNone_iff_eq_none.mp (by decide +kernel)
  obtain ⟨hstart, hback, -⟩ := backtracking sampleTangle sampleCall hcalled
  exact ⟨hcalled, hstart, hnone, hback hnone⟩

end PathProblem

end TrustPath
