import TrustPath.NameConstraint.Check
import TrustPath.Proofs.Name.Equality
import TrustPath.Proofs.Name.Printed

/-!
# Subtrees of names

When a name lies in the subtree of a base (`InSubtree`), told from the
shape of the two: how a domain name, an address or a host ends, of what
an address and a mask consist, and how a directory name starts. The case
of ASCII letters does not count in texts, on either side.

Each matching rule of constraints decides this for its kind of names.
The rules compare texts as they are, so the lemmas for them speak of
characters; names, and bases, are brought into lowercase before. Of a
URI only the host is compared, and that is in lowercase by itself
(`folded_uriHost`): a domain by its form, an address since it is written
with lowercase digits.
-/

namespace TrustPath

namespace NameConstraint

/-! ## Ends of texts -/

/-- The characters of a text, with ASCII letters in lowercase. -/
def folded (s : String) : List Char := s.toList.map Char.toLower

theorem toList_lowerAscii (s : String) : (Text.lowerAscii s).toList = folded s :=
  String.toList_ofList

theorem endsWith_iff {cs ending : List Char} : Text.endsWith cs ending = true ↔ ending <:+ cs :=
  List.isSuffixOf_iff_suffix

/-- A domain name is that of a domain, or belongs to one below. Every
name belongs to the empty one, and with a dot in front only those below
a domain are meant. -/
inductive InDomain (name base : List Char) : Prop
  | every (hempty : base = [])
  | same (hsame : name = base)
  | below (hsuffix : '.' :: base <:+ name)
  | dotted (hdot : base.head? = some '.') (hsuffix : base <:+ name)

theorem dnsMatches_iff {name base : String} :
    dnsMatches name base = true ↔ InDomain name.toList base.toList := by
  unfold dnsMatches
  dsimp only
  split
  · next hempty => exact iff_of_true rfl (.every hempty)
  · next rest hbase =>
    rw [endsWith_iff]
    constructor
    · exact fun hsuffix => .dotted (by rw [hbase]; rfl) hsuffix
    · rintro (hempty | hsame | hsuffix | ⟨-, hsuffix⟩)
      · rw [hbase] at hempty
        cases hempty
      · exact hsame ▸ List.suffix_refl _
      · exact (List.suffix_cons '.' _).trans hsuffix
      · exact hsuffix
  · next hsome hplain =>
    rw [Bool.or_eq_true, beq_iff_eq, endsWith_iff]
    constructor
    · rintro (hsame | hsuffix)
      · exact .same hsame
      · exact .below hsuffix
    · rintro (hempty | hsame | hsuffix | ⟨hdot, -⟩)
      · exact absurd hempty hsome
      · exact Or.inl hsame
      · exact Or.inr hsuffix
      · obtain ⟨rest, hbase⟩ := List.head?_eq_some_iff.mp hdot
        exact absurd hbase (hplain rest)

/-- A host is a given one, or lies below a domain that is given with a
dot in front. -/
inductive AtHost (host base : List Char) : Prop
  | same (hsame : host = base)
  | below (hdot : base.head? = some '.') (hsuffix : base <:+ host)

theorem hostMatches_iff {host base : String} :
    hostMatches host base = true ↔ AtHost host.toList base.toList := by
  unfold hostMatches
  split
  · next rest hbase =>
    rw [endsWith_iff]
    constructor
    · exact fun hsuffix => .below (by rw [hbase]; rfl) hsuffix
    · rintro (hsame | ⟨-, hsuffix⟩)
      · exact hsame ▸ List.suffix_refl _
      · exact hsuffix
  · next hplain =>
    rw [beq_iff_eq]
    constructor
    · rintro rfl
      exact .same rfl
    · rintro (hsame | ⟨hdot, -⟩)
      · exact String.toList_inj.mp hsame
      · obtain ⟨rest, hbase⟩ := List.head?_eq_some_iff.mp hdot
        exact absurd hbase (hplain rest)

/-- An address of mail is a given one, or it is at a given host. The host
is what follows the last at sign. -/
inductive AtMail (address base : List Char) : Prop
  | mailbox (hat : '@' ∈ base) (hsame : address = base)
  | host {mailbox host : List Char} (hat : '@' ∉ base) (haddress : address = mailbox ++ '@' :: host)
      (hlast : '@' ∉ host) (hhost : AtHost host base)

theorem mailHost?_eq_some {address : String} {mailbox host : List Char}
    (haddress : address.toList = mailbox ++ '@' :: host) (hlast : '@' ∉ host) :
    mailHost? address = some (String.ofList host) := by
  have hreversed : address.toList.reverse = host.reverse ++ '@' :: mailbox.reverse := by
    rw [haddress, List.reverse_append, List.reverse_cons, List.append_assoc]
    rfl
  have hfree : ∀ c ∈ host.reverse, decide (c ≠ '@') = true := by
    intro c hc
    refine decide_eq_true fun hat => hlast ?_
    exact hat ▸ List.mem_reverse.mp hc
  have hin : '@' ∈ host.reverse ++ '@' :: mailbox.reverse :=
    List.mem_append_right _ List.mem_cons_self
  unfold mailHost?
  dsimp only
  rw [hreversed, if_pos hin, List.takeWhile_append_of_pos hfree]
  simp

theorem emailMatches_iff {address base : String} :
    emailMatches address base = true ↔ AtMail address.toList base.toList := by
  unfold emailMatches
  split
  · next hat =>
    rw [beq_iff_eq]
    constructor
    · rintro rfl
      exact .mailbox hat rfl
    · rintro (⟨-, hsame⟩ | ⟨hnot, -⟩)
      · exact String.toList_inj.mp hsame
      · exact absurd hat hnot
  · next hnot =>
    by_cases hat : '@' ∈ address.toList.reverse
    · obtain ⟨host, mailbox, hreversed, hlast⟩ := List.eq_append_cons_of_mem hat
      have haddress : address.toList = mailbox.reverse ++ '@' :: host.reverse := by
        rw [← List.reverse_reverse address.toList, hreversed]
        simp
      have hlast : '@' ∉ host.reverse := fun hin => hlast (List.mem_reverse.mp hin)
      rw [mailHost?_eq_some haddress hlast]
      dsimp only
      rw [hostMatches_iff, String.toList_ofList]
      constructor
      · exact fun hhost => .host hnot haddress hlast hhost
      · rintro (⟨hat', -⟩ | ⟨-, haddress', hlast', hhost⟩)
        · exact absurd hat' hnot
        · have hsame := (mailHost?_eq_some haddress hlast).symm.trans
            (mailHost?_eq_some haddress' hlast')
          rw [String.ofList_injective (Option.some.inj hsame)]
          exact hhost
    · have hnone : mailHost? address = none := if_neg hat
      rw [hnone]
      refine iff_of_false Bool.false_ne_true ?_
      rintro (⟨hat', -⟩ | ⟨-, haddress, -, -⟩)
      · exact hnot hat'
      · refine hat (List.mem_reverse.mpr ?_)
        rw [haddress]
        exact List.mem_append_right _ List.mem_cons_self

/-! ## Networks -/

/-- The bits of octets that a mask leaves. -/
def masked (octets mask : Octets) : Octets := List.zipWith (· &&& ·) octets mask

/-- An address is one of four or sixteen octets, and agrees under the
mask with the address in front of it, both of its length. -/
def InNetwork (ip base : Octets) : Prop :=
  (ip.length = 4 ∨ ip.length = 16) ∧ ∃ address mask, base = address ++ mask
    ∧ address.length = ip.length ∧ mask.length = ip.length ∧ masked ip mask = masked address mask

theorem all_masked_iff : ∀ {ip address mask : Octets}, address.length = ip.length →
    mask.length = ip.length →
      (((ip.zip (address.zip mask)).all fun (i, a, m) => i &&& m == a &&& m) = true
        ↔ masked ip mask = masked address mask)
  | [], [], [], _, _ => by simp [masked]
  | i :: ip, a :: address, m :: mask, haddress, hmask => by
      have ih := all_masked_iff (Nat.succ.inj haddress) (Nat.succ.inj hmask)
      unfold masked at ih ⊢
      simp only [List.zip_cons_cons, List.all_cons, Bool.and_eq_true, beq_iff_eq, ih,
        List.zipWith_cons_cons, List.cons.injEq]

theorem ipMatches_iff {ip base : Octets} : ipMatches ip base = true ↔ InNetwork ip base := by
  unfold ipMatches
  split
  · next hlengths =>
    refine iff_of_false Bool.false_ne_true ?_
    rintro ⟨hsize, address, mask, rfl, haddress, hmask, -⟩
    rw [List.length_append] at hlengths
    omega
  · next hlengths =>
    have hbase : base.length = 2 * ip.length := by omega
    have hsize : ip.length = 4 ∨ ip.length = 16 := by omega
    have haddress : (base.take ip.length).length = ip.length := by
      rw [List.length_take]
      omega
    have hmask : (base.drop ip.length).length = ip.length := by
      rw [List.length_drop]
      omega
    rw [all_masked_iff haddress hmask]
    constructor
    · exact fun hagree => ⟨hsize, _, _, (List.take_append_drop _ _).symm, haddress, hmask, hagree⟩
    · rintro ⟨-, address, mask, rfl, haddress', hmask', hagree⟩
      rw [← haddress', List.take_left, List.drop_left]
      exact hagree

/-! ## Hosts in lowercase -/

/-- No ASCII letter of a text is in uppercase. -/
def IsFolded (cs : List Char) : Prop := ∀ c ∈ cs, c.toLower = c

theorem folded_eq {s : String} (h : IsFolded s.toList) : folded s = s.toList :=
  (List.map_congr_left h).trans (List.map_id _)

theorem isFolded_append {cs ds : List Char} (hcs : IsFolded cs) (hds : IsFolded ds) :
    IsFolded (cs ++ ds) := by
  intro c hc
  rcases List.mem_append.mp hc with hc | hc
  · exact hcs c hc
  · exact hds c hc

theorem isFolded_intercalate {joiner : List Char} {parts : List (List Char)}
    (hjoiner : IsFolded joiner) (hparts : ∀ part ∈ parts, IsFolded part) :
    IsFolded (joiner.intercalate parts) := by
  intro c hc
  rcases mem_intercalate hc with hc | ⟨part, hpart, hc⟩
  · exact hjoiner c hc
  · exact hparts part hpart c hc

theorem toLower_toLower (c : Char) : c.toLower.toLower = c.toLower := by
  have hletters : ∀ n < 91, 65 ≤ n → (Char.ofNat n).toLower.toLower = (Char.ofNat n).toLower := by
    decide
  by_cases hupper : 'A'.val ≤ c.val ∧ c.val ≤ 'Z'.val
  · have hlow : 65 ≤ c.toNat := hupper.1
    have hhigh : c.toNat ≤ 90 := hupper.2
    exact c.ofNat_toNat ▸ hletters c.toNat (by omega) hlow
  · have hsame : c.toLower = c := dif_neg hupper
    rw [hsame, hsame]

theorem toLower_digitChar (n : Nat) : n.digitChar.toLower = n.digitChar := by
  have hdigits : ∀ n < 16, n.digitChar.toLower = n.digitChar := by decide
  by_cases hlt : n < 16
  · exact hdigits n hlt
  · have hother : n.digitChar = '*' := by
      unfold Nat.digitChar
      iterate 16 rw [if_neg (by omega)]
    rw [hother]
    rfl

/-- Numbers are written in lowercase, whatever the base. -/
theorem isFolded_toDigits (base n : Nat) : IsFolded (Nat.toDigits base n) := by
  have hcore : ∀ fuel n ds, IsFolded ds → IsFolded (Nat.toDigitsCore base fuel n ds) := by
    intro fuel
    induction fuel with
    | zero => exact fun _ _ hds => hds
    | succ fuel ih =>
        intro n ds hds
        have hcons : IsFolded ((n % base).digitChar :: ds) :=
          List.forall_mem_cons.mpr ⟨toLower_digitChar _, hds⟩
        unfold Nat.toDigitsCore
        dsimp only
        split
        · exact hcons
        · exact ih _ _ hcons
  exact hcore _ _ _ fun _ hin => absurd hin List.not_mem_nil

theorem isFolded_text4 (octets : Octets) : IsFolded (Address.text4 octets).toList := by
  rw [Address.text4, String.toList_intercalate]
  refine isFolded_intercalate (by simp [IsFolded]) fun part hpart => ?_
  obtain ⟨text, htext, rfl⟩ := List.mem_map.mp hpart
  obtain ⟨b, -, rfl⟩ := List.mem_map.mp htext
  have hdigits : (toString b.toNat).toList = Nat.toDigits 10 b.toNat := by
    simp [toString, Nat.repr]
  rw [hdigits]
  exact isFolded_toDigits 10 _

theorem isFolded_groupsText (groups : List Nat) : IsFolded (Address.groupsText groups).toList := by
  rw [Address.groupsText, String.toList_intercalate]
  refine isFolded_intercalate (by simp [IsFolded]) fun part hpart => ?_
  obtain ⟨text, htext, rfl⟩ := List.mem_map.mp hpart
  obtain ⟨g, -, rfl⟩ := List.mem_map.mp htext
  rw [String.toList_ofList]
  exact isFolded_toDigits 16 g

theorem isFolded_text6 (groups : List Nat) : IsFolded (Address.text6 groups).toList := by
  unfold Address.text6
  split
  · rw [String.toList_append]
    exact isFolded_append (by simp [IsFolded]) (isFolded_text4 _)
  · dsimp only
    split
    · rw [String.toList_append, String.toList_append]
      exact isFolded_append (isFolded_append (isFolded_groupsText _) (by simp [IsFolded]))
        (isFolded_groupsText _)
    · exact isFolded_groupsText _

theorem isFolded_text (host : Host) : IsFolded host.text.toList := by
  cases host with
  | name cs =>
      rw [Host.text, String.toList_ofList]
      intro c hc
      obtain ⟨d, -, rfl⟩ := List.mem_map.mp hc
      exact toLower_toLower d
  | address4 octets => exact isFolded_text4 octets
  | address6 groups => exact isFolded_text6 groups

theorem folded_uriHost {uri host : String} (h : uriHost? uri = some host) :
    folded host = host.toList := by
  obtain ⟨parsed, -, rfl⟩ := Option.map_eq_some_iff.mp h
  exact folded_eq (isFolded_text parsed)

/-! ## Names and bases -/

/-- A name lies in the subtree of a base of its kind. A URI without a
host is in no subtree, nor is a name of another kind than these five. -/
inductive InSubtree : GeneralName → GeneralName → Prop
  | dns {name base : String} (hdomain : InDomain (folded name) (folded base)) :
      InSubtree (.dns name) (.dns base)
  | rfc822 {address base : String} (hmail : AtMail (folded address) (folded base)) :
      InSubtree (.rfc822 address) (.rfc822 base)
  | uri {uri host base : String} (hhost : uriHost? uri = some host)
      (hat : AtHost (folded host) (folded base)) : InSubtree (.uri uri) (.uri base)
  | directory {name base : DistinguishedName} (hstarts : base.rdnTexts <+: name.rdnTexts) :
      InSubtree (.directory name) (.directory base)
  | ip {address base : Octets} (hnetwork : InNetwork address base) :
      InSubtree (.ip address) (.ip base)

theorem InSubtree.type_eq {name base : GeneralName} (h : InSubtree name base) :
    name.type = base.type := by
  cases h <;> rfl

theorem inSubtree_dns_iff {name base : String} :
    InSubtree (.dns name) (.dns base)
      ↔ dnsMatches (Text.lowerAscii name) (Text.lowerAscii base) = true := by
  rw [dnsMatches_iff, toList_lowerAscii, toList_lowerAscii]
  exact ⟨fun | .dns h => h, .dns⟩

theorem inSubtree_rfc822_iff {address base : String} :
    InSubtree (.rfc822 address) (.rfc822 base)
      ↔ emailMatches (Text.lowerAscii address) (Text.lowerAscii base) = true := by
  rw [emailMatches_iff, toList_lowerAscii, toList_lowerAscii]
  exact ⟨fun | .rfc822 h => h, .rfc822⟩

theorem inSubtree_uri_iff {uri base : String} :
    InSubtree (.uri uri) (.uri base) ↔ uriMatches (uriHost? uri) (Text.lowerAscii base) = true := by
  cases hhost : uriHost? uri with
  | none =>
      refine iff_of_false (fun h => ?_) Bool.false_ne_true
      cases h with
      | uri hsome _ => rw [hhost] at hsome; cases hsome
  | some host =>
      rw [uriMatches, hostMatches_iff, toList_lowerAscii, ← folded_uriHost hhost]
      constructor
      · intro h
        cases h with
        | uri hsome hat =>
            rw [hhost] at hsome
            obtain rfl := Option.some.inj hsome
            exact hat
      · exact .uri hhost

theorem inSubtree_directory_iff {name base : DistinguishedName} :
    InSubtree (.directory name) (.directory base) ↔ name.isWithin base = true := by
  rw [DistinguishedName.isWithin_iff]
  exact ⟨fun | .directory h => h, .directory⟩

theorem inSubtree_ip_iff {address base : Octets} :
    InSubtree (.ip address) (.ip base) ↔ ipMatches address base = true := by
  rw [ipMatches_iff]
  exact ⟨fun | .ip h => h, .ip⟩

end NameConstraint

end TrustPath
