import TrustPath.Path.Search
import TrustPath.Proofs.Path.Acceptable

/-!
# The tree of partial paths

The search space of a path problem, with nothing of the search in it: no
cache, no positions in use, no counter. A partial path is given by the
certificates above the target, the last one first. It may be extended by
a certificate of the pool that issued its last certificate and whose
encoding it does not hold yet (`extensions`), as long as it has room
(`hasRoom`). `preorder` lists the partial paths below one, itself first,
in the order of the pool.

`answer` is the bounded walk over that list: the first candidate that
passes among the first 1024 partial paths, or the reason why
there is none. That the search computes it is the subject of
`TrustPath.Proofs.Path.Exactness`.

`Reached` is the same tree as a relation. What it says of a path - its
members come from the pool, are linked to one another and have different
encodings - is read off here (`Reached.linked`, `Reached.distinct`).
-/

namespace TrustPath

namespace PathProblem

/-! ## Extending a partial path -/

/-- One certificate issued another: it has the name of the issuer, and
the signature holds under its key. -/
def issues (p : PathProblem) (issuer child : Certificate) : Bool :=
  issuer.subject == child.issuer && p.holds child.signed issuer.publicKey

/-- The last certificate of a partial path. -/
def lastOf (p : PathProblem) : List Certificate → Certificate
  | [] => p.target
  | c :: _ => c

/-- The certificates that extend a partial path by one. -/
def extensions (p : PathProblem) (above : List Certificate) : List Certificate :=
  p.pool.filter fun c =>
    p.issues c (p.lastOf above) && (p.target :: above).all fun d => d.der != c.der

/-- A partial path holds more issuers that count than the limit allows. -/
def exceedsLimit (p : PathProblem) (above : List Certificate) : Bool :=
  p.parameters.lengthLimit.any fun limit => decide (limit < counted above)

theorem exceedsLimit_eq_false {p : PathProblem} {above : List Certificate} :
    p.exceedsLimit above = false ↔ Within (counted above) p.parameters.lengthLimit := by
  rw [exceedsLimit, Option.any_eq_false]
  refine forall_congr' fun limit => imp_congr_right fun _ => ?_
  rw [decide_eq_false_iff_not, Nat.not_lt]

/-- A partial path may be extended: it holds fewer than 31 issuers, and
no more of those that count than the limit allows. -/
def hasRoom (p : PathProblem) (above : List Certificate) : Bool :=
  decide (above.length < 31) && !p.exceedsLimit above

theorem hasRoom_iff {p : PathProblem} {above : List Certificate} :
    p.hasRoom above = true ↔
      above.length < 31 ∧ Within (counted above) p.parameters.lengthLimit := by
  rw [hasRoom, Bool.and_eq_true, decide_eq_true_iff, Bool.not_eq_true', exceedsLimit_eq_false]

theorem length_lt_of_hasRoom {p : PathProblem} {above : List Certificate}
    (h : p.hasRoom above = true) : above.length < 31 :=
  (hasRoom_iff.mp h).1

/-- The partial paths from one on, depth first. -/
def preorder (p : PathProblem) (above : List Certificate) : List (List Certificate) :=
  above :: if p.hasRoom above then (p.extensions above).flatMap fun c => preorder p (c :: above)
    else []
termination_by 31 - above.length
decreasing_by
  have hlt := length_lt_of_hasRoom ‹p.hasRoom above = true›
  rw [List.length_cons]
  omega

theorem preorder_of_hasRoom {p : PathProblem} {above : List Certificate}
    (h : p.hasRoom above = true) :
    p.preorder above
      = [above] ++ (p.extensions above).flatMap fun c => p.preorder (c :: above) := by
  rw [preorder, if_pos h]
  rfl

theorem preorder_of_full {p : PathProblem} {above : List Certificate}
    (h : p.hasRoom above = false) : p.preorder above = [above] := by
  rw [preorder, if_neg (by rw [h]; exact Bool.false_ne_true)]

/-! ## Looking at a partial path -/

/-- The anchors that issued the last certificate. -/
def issuingAnchors (p : PathProblem) (above : List Certificate) : List Certificate :=
  p.anchors.filter fun anchor => p.issues anchor (p.lastOf above)

/-- What the checks say about a partial path under an anchor. -/
def verdict (p : PathProblem) (above : List Certificate) (anchor : Certificate) :
    Except Rejection Unit :=
  (Candidate.check p.holds p.crls p.parameters above p.target anchor).1

/-- The candidate that completes a partial path: it stands under the
first anchor under which the checks pass. -/
def accepted? (p : PathProblem) (above : List Certificate) : Option BuiltPath :=
  if p.exceedsLimit above then none
  else ((p.issuingAnchors above).find? fun anchor => (p.verdict above anchor).isOk).map
    fun anchor => ⟨p.target :: above.reverse, anchor⟩

/-- The rejection that checks end in, if they do. -/
def rejection? : Except Rejection Unit → Option Rejection
  | .ok _ => none
  | .error rejection => some rejection

/-- The rejections at a partial path that no anchor completes, in order. -/
def rejections (p : PathProblem) (above : List Certificate) : List Rejection :=
  if p.exceedsLimit above then [.pathTooLong]
  else (p.issuingAnchors above).filterMap fun anchor => rejection? (p.verdict above anchor)

/-- The bounded walk over the tree of partial paths. -/
def answer (p : PathProblem) : Except PathFailure BuiltPath :=
  let visited := (p.preorder []).take 1024
  match visited.findSome? p.accepted? with
  | some built => .ok built
  | none =>
    if 1024 < (p.preorder []).length then .error .budgetExceeded
    else match (visited.flatMap p.rejections).getLast? with
      | some rejection => .error (.rejected rejection)
      | none => .error .noCandidate

/-! ## The tree as a relation -/

/-- The partial paths of the tree. -/
inductive Reached (p : PathProblem) : List Certificate → Prop
  | target : Reached p []
  | extend {above : List Certificate} {c : Certificate} (h : Reached p above)
      (hroom : p.hasRoom above = true) (hc : c ∈ p.extensions above) : Reached p (c :: above)

theorem self_mem_preorder {p : PathProblem} (above : List Certificate) :
    above ∈ p.preorder above := by
  rw [preorder]
  exact List.mem_cons_self ..

theorem extend_mem_preorder {p : PathProblem} {root above : List Certificate}
    (hmem : above ∈ p.preorder root) (hroom : p.hasRoom above = true)
    {c : Certificate} (hc : c ∈ p.extensions above) : c :: above ∈ p.preorder root := by
  induction hn : 31 - root.length using Nat.strongRecOn generalizing root with
  | _ n ih =>
      rw [preorder] at hmem
      rcases List.mem_cons.mp hmem with rfl | hbelow
      · rw [preorder_of_hasRoom hroom]
        exact List.mem_append_right _ (List.mem_flatMap.mpr ⟨c, hc, self_mem_preorder _⟩)
      · split at hbelow
        · next hroot =>
          obtain ⟨d, hd, hin⟩ := List.mem_flatMap.mp hbelow
          have hlt := length_lt_of_hasRoom hroot
          rw [preorder_of_hasRoom hroot]
          refine List.mem_append_right _ (List.mem_flatMap.mpr ⟨d, hd, ?_⟩)
          exact ih _ (by rw [List.length_cons]; omega) hin rfl
        · exact absurd hbelow List.not_mem_nil

theorem reached_of_mem_preorder {p : PathProblem} {root above : List Certificate}
    (hroot : p.Reached root) (hmem : above ∈ p.preorder root) : p.Reached above := by
  induction hn : 31 - root.length using Nat.strongRecOn generalizing root with
  | _ n ih =>
      rw [preorder] at hmem
      rcases List.mem_cons.mp hmem with rfl | hbelow
      · exact hroot
      · split at hbelow
        · next hroom =>
          obtain ⟨d, hd, hin⟩ := List.mem_flatMap.mp hbelow
          have hlt := length_lt_of_hasRoom hroom
          exact ih _ (by rw [List.length_cons]; omega) (hroot.extend hroom hd) hin rfl
        · exact absurd hbelow List.not_mem_nil

/-- The walk visits the partial paths of the tree and no others. -/
theorem mem_preorder_iff {p : PathProblem} {above : List Certificate} :
    above ∈ p.preorder [] ↔ p.Reached above := by
  refine ⟨reached_of_mem_preorder .target, fun h => ?_⟩
  induction h with
  | target => exact self_mem_preorder []
  | extend _ hroom hc ih => exact extend_mem_preorder ih hroom hc

/-! ## What a partial path is -/

theorem mem_extensions {p : PathProblem} {above : List Certificate} {c : Certificate} :
    c ∈ p.extensions above ↔
      c ∈ p.pool ∧ p.issues c (p.lastOf above) = true
        ∧ ∀ d ∈ p.target :: above, d.der ≠ c.der := by
  simp only [extensions, List.mem_filter, Bool.and_eq_true, List.all_eq_true, bne_iff_ne]

theorem Reached.mem_pool {p : PathProblem} {above : List Certificate} (h : p.Reached above) :
    ∀ c ∈ above, c ∈ p.pool := by
  induction h with
  | target => exact fun c hc => absurd hc List.not_mem_nil
  | extend _ _ hc ih => exact List.forall_mem_cons.mpr ⟨(mem_extensions.mp hc).1, ih⟩

theorem Reached.length_le {p : PathProblem} {above : List Certificate} (h : p.Reached above) :
    above.length ≤ 31 := by
  cases h with
  | target => exact Nat.zero_le _
  | extend _ hroom _ => exact length_lt_of_hasRoom hroom

/-- No two certificates of a partial path have the same encoding. -/
theorem Reached.distinct {p : PathProblem} {above : List Certificate} (h : p.Reached above) :
    (p.target :: above.reverse).Pairwise (·.der ≠ ·.der) := by
  have hrev : (above ++ [p.target]).Pairwise (·.der ≠ ·.der) := by
    induction h with
    | target => exact List.pairwise_singleton ..
    | @extend above c _ _ hc ih =>
        refine List.pairwise_cons.mpr ⟨fun d hd => ?_, ih⟩
        refine ((mem_extensions.mp hc).2.2 d ?_).symm
        rwa [List.mem_cons, or_comm, ← List.mem_singleton, ← List.mem_append]
  rw [← List.reverse_concat, List.pairwise_reverse]
  exact hrev.imp fun hne => hne.symm

/-- Each certificate of a partial path issued the one before it. -/
theorem Reached.linked {p : PathProblem} {above : List Certificate} (h : p.Reached above) :
    (p.target :: above.reverse).IsChain fun child issuer => p.issues issuer child = true := by
  rw [← List.reverse_concat, List.isChain_reverse]
  induction h with
  | target => exact List.isChain_singleton _
  | @extend above c _ _ hc ih =>
      refine ih.cons fun next hnext => ?_
      have hlast : next = p.lastOf above := by
        cases above with
        | nil => exact (Option.some.inj hnext).symm
        | cons d rest => exact (Option.some.inj hnext).symm
      rw [hlast]
      exact (mem_extensions.mp hc).2.1

/-- A partial path by itself: it is drawn from the pool, no two of its
certificates have the same encoding, and each issued the one before. -/
structure IsPartialPath (p : PathProblem) (above : List Certificate) : Prop where
  drawn : ∀ c ∈ above, c ∈ p.pool
  distinct : (p.target :: above.reverse).Pairwise (·.der ≠ ·.der)
  linked : (p.target :: above.reverse).IsChain fun child issuer => p.issues issuer child = true

theorem IsPartialPath.of_cons {p : PathProblem} {c : Certificate} {above : List Certificate}
    (h : p.IsPartialPath (c :: above)) : p.IsPartialPath above ∧ c ∈ p.extensions above := by
  obtain ⟨hdrawn, hdistinct, hlinked⟩ := h
  rw [List.reverse_cons, ← List.cons_append] at hdistinct hlinked
  obtain ⟨hrest, -, hnew⟩ := List.pairwise_append.mp hdistinct
  obtain ⟨hchain, -, hlink⟩ := List.isChain_append.mp hlinked
  refine ⟨⟨fun d hd => hdrawn d (List.mem_cons_of_mem c hd), hrest, hchain⟩,
    mem_extensions.mpr ⟨hdrawn c (List.mem_cons_self ..), ?_, fun d hd => ?_⟩⟩
  · refine hlink (p.lastOf above) ?_ c rfl
    cases above with
    | nil => rfl
    | cons d rest => rw [List.reverse_cons, ← List.cons_append, List.getLast?_concat]; rfl
  · refine hnew d ?_ c (List.mem_singleton_self c)
    rwa [List.mem_cons, List.mem_reverse, ← List.mem_cons]

/-- The partial paths of the tree are the partial paths all of whose
shorter ones have room. -/
theorem reached_iff {p : PathProblem} {above : List Certificate} :
    p.Reached above ↔
      p.IsPartialPath above ∧ ∀ c up, c :: up <:+ above → p.hasRoom up = true := by
  constructor
  · intro h
    refine ⟨⟨h.mem_pool, h.distinct, h.linked⟩, ?_⟩
    induction h with
    | target => exact fun c up hsuf => absurd (List.suffix_nil.mp hsuf) (List.cons_ne_nil c up)
    | extend _ hroom _ ih =>
        intro c up hsuf
        rcases List.suffix_cons_iff.mp hsuf with heq | hsuf
        · obtain ⟨rfl, rfl⟩ := List.cons.inj heq
          exact hroom
        · exact ih c up hsuf
  · rintro ⟨hpath, hroom⟩
    induction above with
    | nil => exact .target
    | cons c above ih =>
        obtain ⟨habove, hc⟩ := hpath.of_cons
        exact (ih habove fun d up hsuf => hroom d up (hsuf.trans (List.suffix_cons ..))).extend
          (hroom c above (List.suffix_refl _)) hc

/-! ## The answer -/

theorem accepted?_eq_some {p : PathProblem} {above : List Certificate} {built : BuiltPath}
    (h : p.accepted? above = some built) :
    built.certificates = p.target :: above.reverse ∧ built.anchor ∈ p.anchors
      ∧ p.issues built.anchor (p.lastOf above) = true
      ∧ Candidate.Acceptable p.holds p.crls p.parameters p.target above.reverse built.anchor := by
  unfold accepted? at h
  split at h
  · cases h
  · obtain ⟨anchor, hfind, rfl⟩ := Option.map_eq_some_iff.mp h
    have hok : (p.verdict above anchor).isOk = true := by simpa using List.find?_some hfind
    have hmem := List.mem_filter.mp (List.mem_of_find?_eq_some hfind)
    refine ⟨rfl, hmem.1, hmem.2, Candidate.check_eq_ok.mp ?_⟩
    cases hv : p.verdict above anchor with
    | ok _ => exact hv
    | error rejection => rw [hv] at hok; cases hok

/-- A partial path within the limit completes if it is acceptable under
an anchor that issued its last certificate. -/
theorem accepted?_isSome {p : PathProblem} {above : List Certificate} {anchor : Certificate}
    (hanchor : anchor ∈ p.anchors) (hissues : p.issues anchor (p.lastOf above) = true)
    (hacceptable :
      Candidate.Acceptable p.holds p.crls p.parameters p.target above.reverse anchor) :
    (p.accepted? above).isSome = true := by
  have hlimit : p.exceedsLimit above = false :=
    exceedsLimit_eq_false.mpr (by simpa using within_lengthLimit.mpr hacceptable.depth)
  have hok : (p.verdict above anchor).isOk = true := by
    rw [verdict, Candidate.check_eq_ok.mpr hacceptable]
    rfl
  rw [accepted?, hlimit, if_neg Bool.false_ne_true, Option.isSome_map, List.find?_isSome]
  exact ⟨anchor, List.mem_filter.mpr ⟨hanchor, hissues⟩, hok⟩

theorem answer_eq_ok {p : PathProblem} {built : BuiltPath} (h : p.answer = .ok built) :
    ∃ above, p.Reached above ∧ p.accepted? above = some built := by
  unfold answer at h
  dsimp only at h
  split at h
  · next found heq =>
    obtain rfl := Except.ok.inj h
    obtain ⟨above, hmem, hsome⟩ := List.exists_of_findSome?_eq_some heq
    exact ⟨above, mem_preorder_iff.mp (List.mem_of_mem_take hmem), hsome⟩
  · split at h
    · cases h
    · split at h <;> cases h

/-- The walk finds something exactly when one of the partial paths it
visits completes. -/
theorem exists_answer_iff {p : PathProblem} :
    (∃ built, p.answer = .ok built) ↔
      ∃ above ∈ (p.preorder []).take 1024, (p.accepted? above).isSome = true := by
  rw [← List.findSome?_isSome_iff]
  unfold answer
  dsimp only
  cases ((p.preorder []).take 1024).findSome? p.accepted? with
  | some built => simp
  | none =>
      refine iff_of_false ?_ (by simp)
      rintro ⟨built, hbuilt⟩
      dsimp only at hbuilt
      split at hbuilt
      · cases hbuilt
      · split at hbuilt <;> cases hbuilt

/-- A tree with a partial path that completes is not walked in vain,
unless the walk gives up. -/
theorem answer_of_accepted {p : PathProblem} {above : List Certificate} (h : p.Reached above)
    (hsome : (p.accepted? above).isSome = true) :
    (∃ built, p.answer = .ok built) ∨ p.answer = .error .budgetExceeded := by
  unfold answer
  dsimp only
  cases hfind : ((p.preorder []).take 1024).findSome? p.accepted? with
  | some built => exact Or.inl ⟨built, rfl⟩
  | none =>
      right
      by_cases hlen : 1024 < (p.preorder []).length
      · exact if_pos hlen
      · rw [List.take_of_length_le (Nat.not_lt.mp hlen), List.findSome?_eq_none_iff] at hfind
        rw [hfind above (mem_preorder_iff.mpr h)] at hsome
        cases hsome

end PathProblem

end TrustPath
