import TrustPath.Proofs.Path.PartialPath

/-!
# Exactness of the search

The search carries a path, a mask of the pool positions in use, a cache
of signature checks, a counter and the last rejection through its
recursion; the walk `PathProblem.answer` knows none of them. This file
proves that both give the same answer.

The invariant between two looks at a partial path is `Consistent`: the
path consists of pool certificates, the mask marks exactly their
positions, and every recalled signature check agrees with a fresh one.
What a part of the search does to the state is `Explores`, stated for
the list of partial paths that the part goes through: it finds what the
first partial path that completes gives, as far as the budget reaches;
if it finds nothing it puts path and mask back, counts the partial
paths, and leaves the last of their rejections.

Two parts in a row explore the two lists in a row (`Explores.append`),
whether or not the budget runs out in the first. From there the recursion
of the search is followed: one look (`visit_cases`), one round over the
pool (`tryPool_explores`), and the whole (`extend_explores`).
-/

namespace TrustPath

namespace PathProblem

/-! ## The invariant -/

/-- The certificate in a slot. -/
def at? (p : PathProblem) : Slot → Option Certificate
  | .target => some p.target
  | .anchor i => p.anchors[i]?
  | .pool i => p.pool[i]?

/-- Every recalled signature check agrees with a fresh one. -/
def CacheSound (p : PathProblem) (signatures : List ((Slot × Slot) × Bool)) : Prop :=
  ∀ child issuer answer, signatures.lookup (child, issuer) = some answer →
    ∀ c d, p.at? child = some c → p.at? issuer = some d → answer = p.holds c.signed d.publicKey

/-- The invariant of the search while it has not given up. -/
structure Consistent (p : PathProblem) (s : SearchState) : Prop where
  inPool : ∀ x ∈ s.issuers, p.pool[x.1]? = some x.2
  used : ∀ i < p.pool.length, s.used.getD i true = true ↔ ∃ c, (i, c) ∈ s.issuers
  cache : p.CacheSound s.signatures
  goesOn : s.budgetExceeded = false
  counted : s.steps ≤ maxSearchSteps

theorem above_eq {s s' : SearchState} (h : s'.issuers = s.issuers) : above s' = above s := by
  rw [above, above, h]

theorem snd_current (p : PathProblem) (s : SearchState) : (p.current s).2 = p.lastOf (above s) := by
  unfold current above
  cases s.issuers with
  | nil => rfl
  | cons x rest => rfl

theorem at?_current_of_inPool {p : PathProblem} {s : SearchState}
    (h : ∀ x ∈ s.issuers, p.pool[x.1]? = some x.2) :
    p.at? (p.current s).1 = some (p.current s).2 := by
  unfold current
  cases hs : s.issuers with
  | nil => rfl
  | cons x rest => exact h x (by rw [hs]; exact List.mem_cons_self ..)

theorem Consistent.at?_current {p : PathProblem} {s : SearchState} (h : p.Consistent s) :
    p.at? (p.current s).1 = some (p.current s).2 :=
  at?_current_of_inPool h.inPool

/-! ## Signature checks

A check may add to the cache; nothing else changes. -/

/-- A step that only checks signatures, writes lines and notes
rejections. -/
structure Quiet (p : PathProblem) (s s' : SearchState) : Prop where
  issuers : s'.issuers = s.issuers
  used : s'.used = s.used
  steps : s'.steps = s.steps
  budgetExceeded : s'.budgetExceeded = s.budgetExceeded
  cache : p.CacheSound s'.signatures

theorem Quiet.refl {p : PathProblem} {s : SearchState} (h : p.CacheSound s.signatures) :
    p.Quiet s s :=
  ⟨rfl, rfl, rfl, rfl, h⟩

theorem Quiet.trans {p : PathProblem} {s s' s'' : SearchState} (h : p.Quiet s s')
    (h' : p.Quiet s' s'') : p.Quiet s s'' :=
  ⟨h'.issuers.trans h.issuers, h'.used.trans h.used, h'.steps.trans h.steps,
    h'.budgetExceeded.trans h.budgetExceeded, h'.cache⟩

theorem Quiet.consistent {p : PathProblem} {s s' : SearchState} (h : p.Quiet s s')
    (hs : p.Consistent s) : p.Consistent s' where
  inPool := by rw [h.issuers]; exact hs.inPool
  used := by rw [h.issuers, h.used]; exact hs.used
  cache := h.cache
  goesOn := h.budgetExceeded.trans hs.goesOn
  counted := by rw [h.steps]; exact hs.counted

theorem signedBy_spec {p : PathProblem} {s : SearchState} {child issuer : Slot × Certificate}
    (hs : p.CacheSound s.signatures) (hchild : p.at? child.1 = some child.2)
    (hissuer : p.at? issuer.1 = some issuer.2) :
    (p.signedBy s child issuer).1 = p.holds child.2.signed issuer.2.publicKey
      ∧ p.Quiet s (p.signedBy s child issuer).2
      ∧ (p.signedBy s child issuer).2.lastRejection = s.lastRejection := by
  unfold signedBy
  cases hlookup : s.signatures.lookup (child.1, issuer.1) with
  | some answer => exact ⟨hs _ _ _ hlookup _ _ hchild hissuer, .refl hs, rfl⟩
  | none =>
      refine ⟨rfl, ⟨rfl, rfl, rfl, rfl, ?_⟩, rfl⟩
      intro x y answer hfound c d hc hd
      rw [List.lookup_cons] at hfound
      split at hfound
      · next heq =>
        obtain ⟨rfl, rfl⟩ := Prod.mk.inj (eq_of_beq heq)
        obtain rfl := Option.some.inj (hc.symm.trans hchild)
        obtain rfl := Option.some.inj (hd.symm.trans hissuer)
        exact (Option.some.inj hfound).symm
      · exact hs x y answer hfound c d hc hd

/-- Asking whether one certificate issued another gives the answer of a
fresh check, whatever the cache holds. -/
theorem issuedBy_spec {p : PathProblem} {s : SearchState} {child : Slot × Certificate}
    (issuer : Slot × Certificate) (hs : p.CacheSound s.signatures)
    (hchild : p.at? child.1 = some child.2) (hissuer : p.at? issuer.1 = some issuer.2) :
    (p.issuedBy s child issuer).1 = p.issues issuer.2 child.2
      ∧ p.Quiet s (p.issuedBy s child issuer).2
      ∧ (p.issuedBy s child issuer).2.lastRejection = s.lastRejection := by
  unfold issuedBy issues
  cases issuer.2.subject == child.2.issuer with
  | true => simpa using signedBy_spec hs hchild hissuer
  | false => exact ⟨rfl, .refl hs, rfl⟩

/-- The same about what issued the last certificate of the path. -/
theorem issuedBy_current {p : PathProblem} {s s' : SearchState} (hs : p.Consistent s)
    (issuer : Slot × Certificate) (hissuer : p.at? issuer.1 = some issuer.2) {answer : Bool}
    (h : p.issuedBy s (p.current s) issuer = (answer, s')) :
    answer = p.issues issuer.2 (p.lastOf (above s)) ∧ p.Quiet s s'
      ∧ s'.lastRejection = s.lastRejection := by
  have hspec := issuedBy_spec issuer hs.cache hs.at?_current hissuer
  rwa [h, snd_current] at hspec

/-! ## Trying the anchors -/

theorem getLast?_cons_or {α : Type} (l : List α) (a : α) (before : Option α) :
    (a :: l).getLast?.or before = l.getLast?.or (some a) := by
  rw [List.getLast?_cons]
  cases l.getLast? <;> rfl

/-- The anchors of a list under which the partial path passes are found
in order; up to there, and to the end if there is none, the rejections
are noted. -/
theorem tryAnchors_spec {p : PathProblem} (cs : List Certificate) :
    ∀ {l : List (Certificate × Nat)} {s : SearchState}, p.Consistent s → above s = cs →
      (∀ x ∈ l, p.anchors[x.2]? = some x.1) →
      let issuing := (l.map (·.1)).filter fun anchor => p.issues anchor (p.lastOf cs)
      (p.tryAnchors l s).1 = (issuing.find? fun anchor => (p.verdict cs anchor).isOk).map
          (fun anchor => ⟨p.target :: cs.reverse, anchor⟩)
        ∧ p.Quiet s (p.tryAnchors l s).2
        ∧ ((p.tryAnchors l s).1 = none → (p.tryAnchors l s).2.lastRejection =
            ((issuing.filterMap fun anchor => rejection? (p.verdict cs anchor)).getLast?).or
              s.lastRejection)
  | [], s, hs, _, _ => ⟨rfl, .refl hs.cache, fun _ => rfl⟩
  | (anchor, i) :: rest, s, hs, habove, hslots => by
      obtain ⟨hslot, hrest⟩ := List.forall_mem_cons.mp hslots
      rw [tryAnchors]
      rcases hissued : p.issuedBy s (p.current s) (.anchor i, anchor) with ⟨answer, s₁⟩
      obtain ⟨hanswer, hquiet, hkept⟩ := issuedBy_current hs (.anchor i, anchor) hslot hissued
      rw [habove] at hanswer
      have hs₁ := hquiet.consistent hs
      have habove₁ : above s₁ = cs := (above_eq hquiet.issuers).trans habove
      cases answer with
      | false =>
          have ih := tryAnchors_spec cs hs₁ habove₁ hrest
          simp only [List.map_cons, List.filter_cons, ← hanswer, Bool.false_eq_true, if_false]
          refine ⟨ih.1, hquiet.trans ih.2.1, fun hnone => ?_⟩
          rw [ih.2.2 hnone, hkept]
      | true =>
          have hverdict : (p.checkUnder s₁ anchor).1 = p.verdict cs anchor := by
            rw [checkUnder, verdict, habove₁]
          simp only [List.map_cons, List.filter_cons, ← hanswer, if_true, List.find?_cons]
          rcases hcheck : p.checkUnder s₁ anchor with ⟨_ | _, lines⟩
          · next rejection =>
            rw [hcheck] at hverdict
            have hquiet₂ : p.Quiet s₁
                (({ s₁ with lines := lines.reverse ++ s₁.lines } : SearchState).reject
                  rejection) :=
              ⟨rfl, rfl, rfl, rfl, hquiet.cache⟩
            have ih := tryAnchors_spec cs (hquiet₂.consistent hs₁) habove₁ hrest
            simp only [← hverdict, Except.isOk, Except.toBool]
            refine ⟨ih.1, hquiet.trans (hquiet₂.trans ih.2.1), fun hnone => ?_⟩
            rw [ih.2.2 hnone, List.filterMap_cons, ← hverdict]
            exact (getLast?_cons_or _ rejection _).symm
          · rw [hcheck] at hverdict
            simp only [← hverdict, Except.isOk, Except.toBool]
            refine ⟨?_, hquiet.trans ⟨rfl, rfl, rfl, rfl, hquiet.cache⟩, fun hnone => ?_⟩
            · rw [path, habove₁]; rfl
            · cases hnone

/-! ## Exploring partial paths -/

/-- What a part of the search that finds nothing leaves behind after
going through partial paths: path and mask as they were, the partial
paths counted as far as the budget reaches, and the last of their
rejections. -/
structure Explored (p : PathProblem) (s s' : SearchState) (nodes : List (List Certificate)) :
    Prop where
  issuers : s'.issuers = s.issuers
  used : s'.used = s.used
  cache : p.CacheSound s'.signatures
  exceeded : s'.budgetExceeded = decide (maxSearchSteps < s.steps + nodes.length)
  steps : s'.budgetExceeded = false → s'.steps = s.steps + nodes.length
  rejection : s'.lastRejection =
    ((nodes.take (maxSearchSteps - s.steps)).flatMap p.rejections).getLast?.or s.lastRejection

/-- What a part of the search that goes through partial paths comes to. -/
structure Explores (p : PathProblem) (s : SearchState) (outcome : Option BuiltPath × SearchState)
    (nodes : List (List Certificate)) : Prop where
  found : outcome.1 = (nodes.take (maxSearchSteps - s.steps)).findSome? p.accepted?
  failed : outcome.1 = none → p.Explored s outcome.2 nodes

theorem Quiet.explored {p : PathProblem} {s s' : SearchState} (h : p.Quiet s s')
    (hs : p.Consistent s) (hkept : s'.lastRejection = s.lastRejection) : p.Explored s s' [] where
  issuers := h.issuers
  used := h.used
  cache := h.cache
  exceeded := by
    rw [h.budgetExceeded, hs.goesOn]
    exact (decide_eq_false (Nat.not_lt.mpr hs.counted)).symm
  steps := fun _ => h.steps
  rejection := by rw [hkept, List.take_nil]; rfl

/-- A part that found nothing and did not give up leaves a state from
which the search goes on. -/
theorem Explored.consistent {p : PathProblem} {s s' : SearchState}
    {nodes : List (List Certificate)} (h : p.Explored s s' nodes) (hs : p.Consistent s)
    (hgoesOn : s'.budgetExceeded = false) : p.Consistent s' where
  inPool := by rw [h.issuers]; exact hs.inPool
  used := by rw [h.issuers, h.used]; exact hs.used
  cache := h.cache
  goesOn := hgoesOn
  counted := by
    rw [h.steps hgoesOn]
    exact Nat.not_lt.mp (of_decide_eq_false (h.exceeded.symm.trans hgoesOn))

/-- Once something is found, what would have come next is of no
account. -/
theorem Explores.append_of_found {p : PathProblem} {s s' : SearchState} {built : BuiltPath}
    {nodes : List (List Certificate)} (h : p.Explores s (some built, s') nodes)
    (more : List (List Certificate)) : p.Explores s (some built, s') (nodes ++ more) where
  found := by
    have hfound := h.found
    rw [List.take_append, List.findSome?_append, ← hfound]
    rfl
  failed := nofun

/-- Once the budget is exceeded, what would have come next is not looked
at. -/
theorem Explores.append_of_exceeded {p : PathProblem} {s s' : SearchState}
    {nodes : List (List Certificate)} (h : p.Explores s (none, s') nodes)
    (hexceeded : s'.budgetExceeded = true) (more : List (List Certificate)) :
    p.Explores s (none, s') (nodes ++ more) := by
  have hfailed := h.failed rfl
  have hlt : maxSearchSteps < s.steps + nodes.length :=
    of_decide_eq_true (hfailed.exceeded.symm.trans hexceeded)
  have htake : (nodes ++ more).take (maxSearchSteps - s.steps)
      = nodes.take (maxSearchSteps - s.steps) :=
    List.take_append_of_le_length (by omega)
  refine ⟨by rw [htake]; exact h.found, fun _ => ?_⟩
  refine ⟨hfailed.issuers, hfailed.used, hfailed.cache, ?_, ?_, by rw [htake]; exact
    hfailed.rejection⟩
  · rw [hexceeded, List.length_append]
    exact (decide_eq_true (by omega)).symm
  · intro hfalse
    rw [hexceeded] at hfalse
    cases hfalse

/-- Two parts in a row: the second goes on where the first found nothing
and did not give up. -/
theorem Explores.append {p : PathProblem} {s s' : SearchState}
    {outcome : Option BuiltPath × SearchState} {nodes more : List (List Certificate)}
    (h : p.Explores s (none, s') nodes) (hgoesOn : s'.budgetExceeded = false)
    (h' : p.Explores s' outcome more) : p.Explores s outcome (nodes ++ more) := by
  have hfailed := h.failed rfl
  have hnone := h.found.symm
  have hsteps := hfailed.steps hgoesOn
  have hle : s.steps + nodes.length ≤ maxSearchSteps :=
    Nat.not_lt.mp (of_decide_eq_false (hfailed.exceeded.symm.trans hgoesOn))
  have hwhole : nodes.take (maxSearchSteps - s.steps) = nodes :=
    List.take_of_length_le (by omega)
  have htake : (nodes ++ more).take (maxSearchSteps - s.steps)
      = nodes ++ more.take (maxSearchSteps - s'.steps) := by
    rw [List.take_append, hwhole, hsteps, Nat.sub_sub]
  rw [hwhole] at hnone
  refine ⟨?_, fun hfail => ?_⟩
  · rw [htake, List.findSome?_append, hnone, Option.none_or]
    exact h'.found
  · have hmore := h'.failed hfail
    refine ⟨hmore.issuers.trans hfailed.issuers, hmore.used.trans hfailed.used, hmore.cache,
      ?_, ?_, ?_⟩
    · rw [hmore.exceeded, hsteps, List.length_append, Nat.add_assoc]
    · intro hend
      rw [hmore.steps hend, hsteps, List.length_append, Nat.add_assoc]
    · rw [hmore.rejection, hfailed.rejection, hwhole, htake, List.flatMap_append,
        List.getLast?_append, Option.or_assoc]

/-- A signature check before a part of the search is of no account. -/
theorem Quiet.explores_after {p : PathProblem} {s s' : SearchState} (h : p.Quiet s s')
    (hs : p.Consistent s) (hkept : s'.lastRejection = s.lastRejection)
    {outcome : Option BuiltPath × SearchState} {nodes : List (List Certificate)}
    (hafter : p.Explores s' outcome nodes) : p.Explores s outcome nodes := by
  have hcheck : p.Explores s (none, s') [] :=
    ⟨by rw [List.take_nil]; rfl, fun _ => h.explored hs hkept⟩
  exact hcheck.append (h.consistent hs).goesOn hafter

/-! ## One look -/

/-- The state in which one more partial path is counted. -/
def tick (s : SearchState) : SearchState := { s with steps := s.steps + 1 }

section

variable {p : PathProblem} {s : SearchState}

theorem visit_of_exceeded (hs : p.Consistent s) (hbudget : maxSearchSteps < s.steps + 1) :
    ∃ line, p.visit s = (.deadEnd, { (tick s).write line with budgetExceeded := true }) := by
  refine ⟨⟨.debug, "abandoning path building after " ++ toString maxSearchSteps ++ " steps"⟩, ?_⟩
  simp only [visit, hbudget, if_true]
  exact if_neg (by rw [hs.goesOn]; exact Bool.false_ne_true)

theorem visit_of_tooLong (hbudget : s.steps < maxSearchSteps)
    (hlimit : p.exceedsLimit (above s) = true) :
    p.visit s = (.deadEnd, (tick s).reject .pathTooLong) := by
  have htooLong : p.isTooLong (tick s) = true := hlimit
  have hwithin : ¬ maxSearchSteps < s.steps + 1 := Nat.not_lt.mpr hbudget
  simp only [visit, hwithin, if_false]
  exact if_pos htooLong

theorem visit_of_tried (hbudget : s.steps < maxSearchSteps)
    (hlimit : p.exceedsLimit (above s) = false) {built : Option BuiltPath} {s' : SearchState}
    (htry : p.tryAnchors p.anchors.zipIdx (tick s) = (built, s')) :
    p.visit s = (built.elim .extendable .found, s') := by
  have hshort : ¬ p.isTooLong (tick s) = true := by
    have hnot : p.isTooLong (tick s) = false := hlimit
    rw [hnot]
    exact Bool.false_ne_true
  have hwithin : ¬ maxSearchSteps < s.steps + 1 := Nat.not_lt.mpr hbudget
  unfold tick at htry hshort
  simp only [visit, hwithin, if_false]
  refine (if_neg hshort).trans ?_
  rw [htry]
  cases built with
  | none => rfl
  | some built => rfl

/-- Without budget nothing is found, and what would lie below does not
count either. -/
theorem explores_exceeded (hs : p.Consistent s) (hbudget : maxSearchSteps < s.steps + 1)
    (line : LogLine) (below : List (List Certificate)) :
    p.Explores s (none, { (tick s).write line with budgetExceeded := true }) (above s :: below) := by
  have hnone : maxSearchSteps - s.steps = 0 := by omega
  refine ⟨by rw [hnone]; rfl, fun _ => ?_⟩
  refine ⟨rfl, rfl, hs.cache, ?_, nofun, by rw [hnone]; rfl⟩
  exact (decide_eq_true (by rw [List.length_cons]; omega)).symm

/-- One partial path fits into what is left of the budget. -/
theorem take_one (hbudget : s.steps < maxSearchSteps) (cs : List Certificate) :
    [cs].take (maxSearchSteps - s.steps) = [cs] :=
  List.take_of_length_le (by rw [List.length_singleton]; omega)

theorem Consistent.exceeded_one (hs : p.Consistent s) (hbudget : s.steps < maxSearchSteps)
    (cs : List Certificate) :
    s.budgetExceeded = decide (maxSearchSteps < s.steps + [cs].length) := by
  rw [hs.goesOn, List.length_singleton, decide_eq_false (Nat.not_lt.mpr hbudget)]

theorem explores_tooLong (hs : p.Consistent s) (hbudget : s.steps < maxSearchSteps)
    (hlimit : p.exceedsLimit (above s) = true) :
    p.Explores s (none, (tick s).reject .pathTooLong) [above s] := by
  have hleft := take_one hbudget (above s)
  refine ⟨?_, fun _ => ?_⟩
  · simp [hleft, accepted?, hlimit]
  · refine ⟨rfl, rfl, hs.cache, hs.exceeded_one hbudget _, fun _ => rfl, ?_⟩
    simp [hleft, rejections, hlimit, SearchState.reject, tick]

theorem explores_tried (hs : p.Consistent s) (hbudget : s.steps < maxSearchSteps)
    (hlimit : p.exceedsLimit (above s) = false) :
    p.Explores s (p.tryAnchors p.anchors.zipIdx (tick s)) [above s]
      ∧ (p.tryAnchors p.anchors.zipIdx (tick s)).2.budgetExceeded = false := by
  have htick : p.Consistent (tick s) := ⟨hs.inPool, hs.used, hs.cache, hs.goesOn, hbudget⟩
  have hslots : ∀ x ∈ p.anchors.zipIdx, p.anchors[x.2]? = some x.1 :=
    fun x hx => List.mem_zipIdx_iff_getElem?.mp hx
  obtain ⟨hanswer, hquiet, hrejection⟩ := tryAnchors_spec (above s) htick rfl hslots
  rw [List.zipIdx_map_fst] at hanswer hrejection
  have haccepted : (p.tryAnchors p.anchors.zipIdx (tick s)).1 = p.accepted? (above s) := by
    rw [accepted?, hlimit, if_neg Bool.false_ne_true]
    exact hanswer
  refine ⟨⟨?_, fun hnone => ?_⟩, hquiet.budgetExceeded.trans hs.goesOn⟩
  · rw [haccepted, take_one hbudget, List.findSome?_singleton]
  · refine ⟨hquiet.issuers, hquiet.used, hquiet.cache,
      hquiet.budgetExceeded.trans (hs.exceeded_one hbudget _), fun _ => hquiet.steps, ?_⟩
    rw [hrejection hnone, take_one hbudget, List.flatMap_singleton, rejections, hlimit,
      if_neg Bool.false_ne_true]
    rfl

/-- What a look at a partial path can come to: the budget is used up and
nothing counts any more; the path is too long; an anchor completes it; or
none does and it may be extended. -/
theorem visit_cases (hs : p.Consistent s) :
    (∃ s', p.visit s = (.deadEnd, s') ∧ ∀ below, p.Explores s (none, s') (above s :: below))
    ∨ (p.hasRoom (above s) = false
        ∧ ∃ s', p.visit s = (.deadEnd, s') ∧ p.Explores s (none, s') [above s])
    ∨ (∃ built s', p.visit s = (.found built, s') ∧ p.Explores s (some built, s') [above s])
    ∨ (p.exceedsLimit (above s) = false
        ∧ ∃ s', p.visit s = (.extendable, s') ∧ s'.budgetExceeded = false
          ∧ p.Explores s (none, s') [above s]) := by
  rcases Nat.lt_or_ge s.steps maxSearchSteps with hbudget | hexceeded
  · cases hlimit : p.exceedsLimit (above s) with
    | true =>
        have hfull : p.hasRoom (above s) = false := by rw [hasRoom, hlimit]; simp
        exact .inr (.inl ⟨hfull, _, visit_of_tooLong hbudget hlimit,
          explores_tooLong hs hbudget hlimit⟩)
    | false =>
        obtain ⟨hexplores, hgoesOn⟩ := explores_tried hs hbudget hlimit
        rcases htry : p.tryAnchors p.anchors.zipIdx (tick s) with ⟨_ | built, s'⟩
        · rw [htry] at hexplores hgoesOn
          exact .inr (.inr (.inr ⟨rfl, s', visit_of_tried hbudget hlimit htry, hgoesOn,
            hexplores⟩))
        · rw [htry] at hexplores
          exact .inr (.inr (.inl ⟨built, s', visit_of_tried hbudget hlimit htry, hexplores⟩))
  · have hexceeded := Nat.lt_succ_of_le hexceeded
    obtain ⟨line, hvisit⟩ := visit_of_exceeded hs hexceeded
    exact .inl ⟨_, hvisit, explores_exceeded hs hexceeded line⟩

end

/-! ## One round over the pool -/

/-- The mask is clear at the position of a certificate whose encoding the
path does not hold. -/
theorem Consistent.used_of_fresh {p : PathProblem} {s : SearchState} (hs : p.Consistent s)
    {c : Certificate} {i : Nat} (hc : p.pool[i]? = some c)
    (hfresh : ((p.target :: above s).all fun d => d.der != c.der) = true) :
    s.used[i]? = some false := by
  have hlt : i < p.pool.length := (List.getElem?_eq_some_iff.mp hc).1
  cases hused : s.used.getD i true with
  | false =>
      rw [List.getD_eq_getElem?_getD] at hused
      cases hget : s.used[i]? with
      | none => rw [hget] at hused; cases hused
      | some b => rw [hget] at hused; exact congrArg some hused
  | true =>
      obtain ⟨d, hd⟩ := (hs.used i hlt).mp hused
      obtain rfl := Option.some.inj (hc.symm.trans (hs.inPool (i, d) hd))
      have hmem : c ∈ above s := List.mem_map.mpr ⟨(i, c), hd, rfl⟩
      have hne := List.all_eq_true.mp hfresh c (List.mem_cons_of_mem _ hmem)
      rw [bne_self_eq_false] at hne
      cases hne

/-- Whether a certificate at a pool position may go on the path is a
matter of encodings alone: the mask excludes only what is on the path
already. -/
theorem isFresh_eq {p : PathProblem} {s : SearchState} (hs : p.Consistent s) {c : Certificate}
    {i : Nat} (hc : p.pool[i]? = some c) :
    p.isFresh s c i = (p.target :: above s).all fun d => d.der != c.der := by
  have hsplit : p.isFresh s c i
      = (!s.used.getD i true && (p.target :: above s).all fun d => d.der != c.der) := by
    rw [isFresh, List.all_cons, List.not_any_eq_all_not, bne_comm, Bool.and_assoc]
    rfl
  rw [hsplit]
  cases hfresh : (p.target :: above s).all fun d => d.der != c.der with
  | false => exact Bool.and_false _
  | true =>
      rw [List.getD_eq_getElem?_getD, hs.used_of_fresh hc hfresh]
      rfl

theorem Consistent.push {p : PathProblem} {s : SearchState} (hs : p.Consistent s)
    {c : Certificate} {i : Nat} (hc : p.pool[i]? = some c) (hfree : s.used[i]? = some false) :
    p.Consistent (s.push i c) where
  inPool := List.forall_mem_cons.mpr ⟨hc, hs.inPool⟩
  used := by
    intro j hj
    have hold := hs.used j hj
    have hlt : i < s.used.length := (List.getElem?_eq_some_iff.mp hfree).1
    simp only [SearchState.push, List.getD_eq_getElem?_getD, List.mem_cons, Prod.mk.injEq]
      at hold ⊢
    by_cases hij : i = j
    · subst hij
      rw [List.getElem?_set_self hlt]
      exact ⟨fun _ => ⟨c, .inl ⟨rfl, rfl⟩⟩, fun _ => rfl⟩
    · rw [List.getElem?_set_ne hij, hold]
      refine exists_congr fun d => (or_iff_right fun hsame => ?_).symm
      exact hij hsame.1.symm
  cache := hs.cache
  goesOn := hs.goesOn
  counted := hs.counted

/-- Taking a certificate off the path again leaves the state from before
it was put there. -/
theorem Explores.pop {p : PathProblem} {s s' : SearchState} {c : Certificate} {i : Nat}
    (hfree : s.used[i]? = some false) {nodes : List (List Certificate)}
    (h : p.Explores (s.push i c) (none, s') nodes) : p.Explores s (none, s'.pop i) nodes where
  found := h.found
  failed := by
    intro _
    have hfailed := h.failed rfl
    refine ⟨?_, ?_, hfailed.cache, hfailed.exceeded, hfailed.steps, hfailed.rejection⟩
    · show s'.issuers.tail = s.issuers
      rw [hfailed.issuers]
      rfl
    · show s'.used.set i false = s.used
      rw [hfailed.used]
      show (s.used.set i true).set i false = s.used
      obtain ⟨hlt, hvalue⟩ := List.getElem?_eq_some_iff.mp hfree
      rw [List.set_set, ← hvalue]
      exact List.set_getElem_self hlt

/-- A certificate that extends the path goes on it; if the search finds
nothing there, the round goes on with the rest. -/
theorem tryPool_of_issued {p : PathProblem} {next : SearchState → Option BuiltPath × SearchState}
    {s s₁ : SearchState} {c : Certificate} {i : Nat} {rest : List (Certificate × Nat)}
    {nodes more : List (List Certificate)} (hfresh : p.isFresh s c i = true)
    (hissued : p.issuedBy s (p.current s) (.pool i, c) = (true, s₁)) (hs₁ : p.Consistent s₁)
    (hfree : s₁.used[i]? = some false)
    (hbelow : p.Explores (s₁.push i c) (next (s₁.push i c)) nodes)
    (hrest : ∀ s₂, p.Consistent s₂ → s₂.issuers = s₁.issuers →
      p.Explores s₂ (p.tryPool next rest s₂) more) :
    p.Explores s₁ (p.tryPool next ((c, i) :: rest) s) (nodes ++ more) := by
  rw [tryPool, if_pos hfresh, hissued]
  dsimp only
  rcases hsearch : next (s₁.push i c) with ⟨_ | built, s₂⟩
  · rw [hsearch] at hbelow
    have hpop := hbelow.pop hfree
    dsimp only
    cases hend : (s₂.pop i).budgetExceeded with
    | true => exact hpop.append_of_exceeded hend more
    | false =>
        have hs₂ := (hpop.failed rfl).consistent hs₁ hend
        exact hpop.append hend (hrest (s₂.pop i) hs₂ (hpop.failed rfl).issuers)
  · rw [hsearch] at hbelow
    have hfound : p.Explores s₁ (some built, s₂) nodes := ⟨hbelow.found, nofun⟩
    exact hfound.append_of_found more

/-- A round over pool positions explores, for each certificate that
extends the path, what lies below it, provided `next` does so. -/
theorem tryPool_explores {p : PathProblem} {next : SearchState → Option BuiltPath × SearchState}
    (issuers : List (Nat × Certificate))
    (hnext : ∀ i c s, p.Consistent s → s.issuers = (i, c) :: issuers →
      p.Explores s (next s) (p.preorder (above s))) :
    ∀ {l : List (Certificate × Nat)} {s : SearchState}, p.Consistent s → s.issuers = issuers →
      (∀ x ∈ l, p.pool[x.2]? = some x.1) →
      p.Explores s (p.tryPool next l s)
        (((l.map (·.1)).filter fun c => p.issues c (p.lastOf (above s))
          && (p.target :: above s).all fun d => d.der != c.der).flatMap
            fun c => p.preorder (c :: above s))
  | [], s, hs, _, _ => by
      refine ⟨?_, fun _ => (Quiet.refl hs.cache).explored hs rfl⟩
      rw [List.map_nil, List.filter_nil, List.flatMap_nil, List.take_nil]
      rfl
  | (c, i) :: rest, s, hs, hissuers, hslots => by
      obtain ⟨hslot, hrest⟩ := List.forall_mem_cons.mp hslots
      have hfreshness := isFresh_eq hs hslot
      rw [List.map_cons]
      cases hfresh : (p.target :: above s).all fun d => d.der != c.der with
      | false =>
          rw [List.filter_cons_of_neg (by simp [hfresh]), tryPool, hfreshness, hfresh,
            if_neg Bool.false_ne_true]
          exact tryPool_explores issuers hnext hs hissuers hrest
      | true =>
          rcases hissued : p.issuedBy s (p.current s) (.pool i, c) with ⟨answer, s₁⟩
          obtain ⟨hanswer, hquiet, hkept⟩ := issuedBy_current hs (.pool i, c) hslot hissued
          have hs₁ := hquiet.consistent hs
          have habove : above s₁ = above s := above_eq hquiet.issuers
          have hissuers₁ : s₁.issuers = issuers := hquiet.issuers.trans hissuers
          refine hquiet.explores_after hs hkept ?_
          cases answer with
          | false =>
              have ih := tryPool_explores issuers hnext hs₁ hissuers₁ hrest
              rw [habove] at ih
              rw [List.filter_cons_of_neg (by simp [← hanswer]), tryPool, hfreshness, hfresh,
                if_pos rfl, hissued]
              exact ih
          | true =>
              have hfree : s₁.used[i]? = some false :=
                hs₁.used_of_fresh hslot (by rw [habove]; exact hfresh)
              have hpushed : above (s₁.push i c) = c :: above s := by rw [← habove]; rfl
              have hbelow := hnext i c (s₁.push i c) (hs₁.push hslot hfree)
                (by rw [← hissuers₁]; rfl)
              rw [hpushed] at hbelow
              rw [List.filter_cons_of_pos (by simp only [← hanswer, hfresh, Bool.and_true]),
                List.flatMap_cons]
              refine tryPool_of_issued (hfreshness.trans hfresh) hissued hs₁ hfree hbelow
                fun s₂ hs₂ hkept₂ => ?_
              have ih := tryPool_explores issuers hnext hs₂ (hkept₂.trans hissuers₁) hrest
              rwa [above_eq hkept₂, habove] at ih

/-! ## The whole search -/

theorem extend_explores {p : PathProblem} : ∀ (room : Nat) (s : SearchState), p.Consistent s →
    room + s.issuers.length = 31 →
    p.Explores s (p.extend room s) (p.preorder (above s))
  | 0, s, hs, hlength => by
      have hfull : p.hasRoom (above s) = false := by
        rw [hasRoom, above, List.length_map, ← hlength]
        simp
      rw [preorder_of_full hfull, extend]
      rcases visit_cases hs with ⟨s', hvisit, hexplores⟩ | ⟨_, s', hvisit, hexplores⟩ |
        ⟨built, s', hvisit, hexplores⟩ | ⟨_, s', hvisit, _, hexplores⟩
      · rw [hvisit]
        exact hexplores []
      · rw [hvisit]
        exact hexplores
      · rw [hvisit]
        exact hexplores
      · rw [hvisit]
        exact hexplores
  | room + 1, s, hs, hlength => by
      rw [extend]
      rcases visit_cases hs with ⟨s', hvisit, hexplores⟩ | ⟨hfull, s', hvisit, hexplores⟩ |
        ⟨built, s', hvisit, hexplores⟩ | ⟨hlimit, s', hvisit, hgoesOn, hexplores⟩
      · rw [hvisit, preorder]
        exact hexplores _
      · rw [hvisit, preorder_of_full hfull]
        exact hexplores
      · rw [hvisit, preorder]
        exact hexplores.append_of_found _
      · have hroom : p.hasRoom (above s) = true := by
          have hlt : (above s).length < 31 := by
            rw [above, List.length_map]
            omega
          rw [hasRoom, hlimit, decide_eq_true hlt]
          rfl
        rw [hvisit, preorder_of_hasRoom hroom]
        have hkept : s'.issuers = s.issuers := (hexplores.failed rfl).issuers
        have hs' := (hexplores.failed rfl).consistent hs hgoesOn
        have hround := tryPool_explores s.issuers
          (fun i c s₁ hs₁ hissuers => extend_explores room s₁ hs₁
            (by rw [hissuers, List.length_cons]; omega))
          hs' hkept (l := p.pool.zipIdx) fun x hx => List.mem_zipIdx_iff_getElem?.mp hx
        rw [List.zipIdx_map_fst, above_eq hkept] at hround
        exact hexplores.append hgoesOn hround

theorem consistent_start (p : PathProblem) : p.Consistent (.start p.pool.length) where
  inPool := fun _ hx => absurd hx List.not_mem_nil
  used := by
    intro i hi
    have hclear : (List.replicate p.pool.length false).getD i true = false := by
      rw [List.getD_eq_getElem?_getD, List.getElem?_replicate_of_lt hi]
      rfl
    rw [SearchState.start, hclear]
    refine iff_of_false Bool.false_ne_true ?_
    rintro ⟨c, hc⟩
    exact absurd hc List.not_mem_nil
  cache := nofun
  goesOn := rfl
  counted := Nat.zero_le _

/-- The search answers like the walk over the tree of partial paths,
unless the target is an anchor itself. -/
theorem solve_eq_answer (p : PathProblem) :
    p.solve.1 = match p.anchors.find? (·.der == p.target.der) with
      | some anchor => .ok ⟨[], anchor⟩
      | none => p.answer := by
  unfold solve
  cases p.anchors.find? (·.der == p.target.der) with
  | some anchor => rfl
  | none =>
      have hexplores : p.Explores (.start p.pool.length)
          (p.extend maxIssuers (.start p.pool.length)) (p.preorder []) :=
        extend_explores maxIssuers (.start p.pool.length) (consistent_start p) rfl
      have hfound : _ = ((p.preorder []).take 1024).findSome? p.accepted? :=
        hexplores.found
      unfold answer
      dsimp only
      rw [← hfound]
      rcases hsearch : p.extend maxIssuers (.start p.pool.length) with ⟨_ | built, s⟩
      · have hfailed : p.Explored (.start p.pool.length) s (p.preorder []) := by
          have hend := hexplores.failed
          rw [hsearch] at hend
          exact hend rfl
        have hexceeded : s.budgetExceeded = decide (1024 < (p.preorder []).length) := by
          rw [hfailed.exceeded, show (SearchState.start p.pool.length).steps = 0 from rfl,
            Nat.zero_add]
          rfl
        have hrejection : s.lastRejection =
            (((p.preorder []).take 1024).flatMap p.rejections).getLast? :=
          hfailed.rejection.trans Option.or_none
        dsimp only
        rw [failure, hexceeded, hrejection]
        by_cases hlen : 1024 < (p.preorder []).length
        · rw [decide_eq_true hlen, if_pos hlen]
          rfl
        · rw [decide_eq_false hlen, if_neg hlen, if_neg Bool.false_ne_true]
          cases (((p.preorder []).take 1024).flatMap p.rejections).getLast? with
          | none => rfl
          | some rejection => rfl
      · rfl

/-- The search, with its cache, its mask and its budget, is exact. A
target that is an anchor is found at once; for every other target the
answer is that of the bounded walk over the tree of partial paths. That
tree holds the partial paths whose shorter ones all have room, and no
others. -/
theorem solve_exact (p : PathProblem) :
    (p.solve.1 = match p.anchors.find? (·.der == p.target.der) with
      | some anchor => .ok ⟨[], anchor⟩
      | none => p.answer)
    ∧ ∀ above, above ∈ p.preorder [] ↔
        p.IsPartialPath above ∧ ∀ c up, c :: up <:+ above → p.hasRoom up = true :=
  ⟨p.solve_eq_answer, fun above => by rw [mem_preorder_iff, reached_iff]⟩

end PathProblem

end TrustPath
