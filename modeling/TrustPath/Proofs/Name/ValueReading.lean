import Mathlib.Data.List.TakeWhile
import TrustPath.Proofs.Name.Grammar
import TrustPath.Proofs.Outcome

/-!
# How values are read

The reader of values takes from the front of a text what the grammar calls
a value, with blanks after it (`exists_valueText_of_readValue`), and takes
every value whole, whatever comes after it, as long as that is the end or a
separator (`ValueText.readValue`).

The grammar looks at no more than the value itself, while the reader of an
escape looks one character ahead. No blank, quote or separator is a
hexadecimal digit, so what follows a value never changes how its last
escape is read.
-/

namespace TrustPath

open NameParser

/-! ## Escapes -/

theorem NoDigitFirst.append {cs ds : List Char} (hcs : NoDigitFirst cs) (hds : NoDigitFirst ds) :
    NoDigitFirst (cs ++ ds) := by
  cases cs with
  | nil => exact hds
  | cons c cs => exact hcs

theorem NoDigitFirst.of_append {cs ds : List Char} (h : NoDigitFirst (cs ++ ds)) :
    NoDigitFirst cs := by
  cases cs with
  | nil => simp [NoDigitFirst]
  | cons c cs => exact h

namespace NameParser

theorem readEscape_octet {a b : Char} {octet : UInt8} (h : Octets.SpelledBy [octet] [a, b])
    (rest : List Char) : readEscape (a :: b :: rest) = .ok ([octet], rest) := by
  obtain ⟨ha, hb⟩ := Octets.spelledBy_pair.mp h
  have hoctet : UInt8.ofNat (16 * (octet.toNat / 16) + octet.toNat % 16) = octet := by
    rw [Nat.div_add_mod, UInt8.ofNat_toNat]
  simp [readEscape, ha, hb, hoctet]

theorem readEscape_character {c : Char} {rest : List Char}
    (h : Octets.isHexDigit c = true → NoDigitFirst rest) :
    readEscape (c :: rest) = .ok (String.utf8EncodeChar c, rest) := by
  simp only [readEscape]
  split
  · next hc hrest =>
    have hnone := h (by simp [Octets.isHexDigit, hc])
    obtain ⟨d, hd, hvalue⟩ := Option.bind_eq_some_iff.mp hrest
    have hdigit := hnone d hd
    simp [Octets.isHexDigit, hvalue] at hdigit
  · rfl

/-- What is read after a backslash is two digits with the value of an octet, or a character that
is not the first of two digits. -/
theorem readEscape_cases {cs rest : List Char} {octets : Octets}
    (h : readEscape cs = .ok (octets, rest)) :
    (∃ a b octet, cs = a :: b :: rest ∧ octets = [octet] ∧ Octets.SpelledBy [octet] [a, b]) ∨
      ∃ c, cs = c :: rest ∧ octets = String.utf8EncodeChar c ∧
        (Octets.isHexDigit c = true → NoDigitFirst rest) := by
  cases cs with
  | nil => cases h
  | cons a cs =>
      simp only [readEscape] at h
      split at h
      · next ha hb =>
        obtain ⟨b, hhead, hb⟩ := Option.bind_eq_some_iff.mp hb
        obtain ⟨tail, rfl⟩ := List.head?_eq_some_iff.mp hhead
        obtain ⟨rfl, rfl⟩ := Prod.mk.inj (Except.ok.inj h)
        exact .inl ⟨a, b, _, rfl, rfl, Octets.spelledBy_of_values ha hb⟩
      · next hnot =>
        obtain ⟨rfl, rfl⟩ := Prod.mk.inj (Except.ok.inj h)
        refine .inr ⟨a, rfl, rfl, fun ha d hd => ?_⟩
        obtain ⟨hi, hhi⟩ := Option.isSome_iff_exists.mp ha
        refine Bool.eq_false_iff.mpr fun hdigit => ?_
        obtain ⟨lo, hlo⟩ := Option.isSome_iff_exists.mp hdigit
        exact hnot hi lo hhi (Option.bind_eq_some_iff.mpr ⟨d, hd, hlo⟩)

/-- What is read after a backslash goes in front of a run. -/
theorem exists_run_of_readEscape {stops cs body tail : List Char} {octets : Octets}
    {pieces : List Piece} (h : readEscape cs = .ok (octets, body ++ tail))
    (hrun : Run stops body pieces) :
    ∃ front, cs = front ++ tail ∧ Run stops ('\\' :: front) (.escaped octets :: pieces) := by
  rcases readEscape_cases h with ⟨a, b, octet, rfl, rfl, hdigits⟩ | ⟨c, rfl, rfl, hdigits⟩
  · exact ⟨a :: b :: body, rfl, .octet hdigits hrun⟩
  · exact ⟨c :: body, rfl, .character (fun hc => (hdigits hc).of_append) hrun⟩

end NameParser

/-! ## Runs -/

namespace Run

variable {stops body : List Char} {pieces : List Piece}

/-- The pieces of a run come in two parts as its characters do. -/
theorem split {front back : List Piece} (h : Run stops body (front ++ back)) :
    ∃ left right, body = left ++ right ∧ Run stops left front ∧ Run stops right back := by
  induction front generalizing body with
  | nil => exact ⟨[], body, rfl, .nil, h⟩
  | cons piece front ih =>
      cases h with
      | plain hstop hback hrest =>
          obtain ⟨left, right, rfl, hleft, hright⟩ := ih hrest
          exact ⟨_ :: left, right, rfl, .plain hstop hback hleft, hright⟩
      | octet hdigits hrest =>
          obtain ⟨left, right, rfl, hleft, hright⟩ := ih hrest
          exact ⟨_ :: _ :: _ :: left, right, rfl, .octet hdigits hleft, hright⟩
      | character hdigits hrest =>
          obtain ⟨left, right, rfl, hleft, hright⟩ := ih hrest
          exact ⟨_ :: _ :: left, right, rfl,
            .character (fun hc => (hdigits hc).of_append) hleft, hright⟩

theorem blanks (h : Run stops body pieces) (hblank : ∀ piece ∈ pieces, piece.isBlank = true) :
    Blanks body := by
  induction h with
  | nil => exact blanks_nil
  | plain _ _ _ ih =>
      obtain ⟨hpiece, hmore⟩ := List.forall_mem_cons.mp hblank
      exact List.forall_mem_cons.mpr ⟨by simpa [Piece.isBlank] using hpiece, ih hmore⟩
  | octet _ _ _ => exact absurd (hblank _ (List.mem_cons_self ..)) (by simp [Piece.isBlank])
  | character _ _ _ => exact absurd (hblank _ (List.mem_cons_self ..)) (by simp [Piece.isBlank])

/-- A run up to a separator is read whole, with what is read after it. -/
theorem readPieces (h : Run [',', ';', '+'] body pieces) {tail rest : List Char}
    {more : List Piece} (htail : NoDigitFirst tail)
    (hmore : NameParser.readPieces tail = .ok (more, rest)) :
    NameParser.readPieces (body ++ tail) = .ok (pieces ++ more, rest) := by
  induction h with
  | nil => exact hmore
  | plain hstop hback _ ih =>
      exact readPieces_plain (by simpa [isSeparator] using hstop) hback ih
  | octet hdigits _ ih => exact readPieces_escape (readEscape_octet hdigits _) ih
  | character hdigits _ ih =>
      exact readPieces_escape (readEscape_character fun hc => (hdigits hc).append htail) ih

end Run

namespace NameParser

theorem exists_run_of_readPieces {cs rest : List Char} {pieces : List Piece}
    (h : readPieces cs = .ok (pieces, rest)) :
    ∃ body, cs = body ++ rest ∧ Run [',', ';', '+'] body pieces ∧ AtEnd rest := by
  fun_induction readPieces cs generalizing pieces rest with
  | case1 =>
    obtain ⟨rfl, rfl⟩ := Prod.mk.inj (Except.ok.inj h)
    exact ⟨[], rfl, .nil, by simp [AtEnd]⟩
  | case2 c cs hseparator =>
    obtain ⟨rfl, rfl⟩ := Prod.mk.inj (Except.ok.inj h)
    exact ⟨[], rfl, .nil, by simpa [AtEnd] using hseparator⟩
  | case3 => cases h
  | case4 => cases h
  | case5 cs octets after hescape _ more rest' hmore _ ih =>
    obtain ⟨rfl, rfl⟩ := Prod.mk.inj (Except.ok.inj h)
    obtain ⟨body, rfl, hrun, hend⟩ := ih hmore
    obtain ⟨front, rfl, hfront⟩ := exists_run_of_readEscape hescape hrun
    exact ⟨'\\' :: front, rfl, hfront, hend⟩
  | case6 => cases h
  | case7 c cs hseparator hback more rest' hmore ih =>
    obtain ⟨rfl, rfl⟩ := Prod.mk.inj (Except.ok.inj h)
    obtain ⟨body, rfl, hrun, hend⟩ := ih hmore
    exact ⟨c :: body, rfl, .plain (by simpa [isSeparator] using hseparator) hback hrun, hend⟩

theorem readQuoted_escape {cs rest after : List Char} {octets more : Octets}
    (hescape : readEscape cs = .ok (octets, rest)) (h : readQuoted rest = .ok (more, after)) :
    readQuoted ('\\' :: cs) = .ok (octets ++ more, after) := by
  rw [readQuoted, if_neg (by decide), if_pos rfl]
  split
  · next hfault => cases hescape.symm.trans hfault
  · next heq =>
    obtain ⟨rfl, rfl⟩ := Prod.mk.inj (Except.ok.inj (hescape.symm.trans heq))
    rw [h]

/-- What stands before the closing quote is a run, and its pieces give the octets. -/
theorem readQuoted_eq_ok_iff {cs rest : List Char} {octets : Octets} :
    readQuoted cs = .ok (octets, rest) ↔
      ∃ body pieces, cs = body ++ '"' :: rest ∧ Run ['"'] body pieces ∧
        octets = pieces.flatMap (·.octets) := by
  constructor
  · intro h
    fun_induction readQuoted cs generalizing octets rest with
    | case1 => cases h
    | case2 cs =>
      obtain ⟨rfl, rfl⟩ := Prod.mk.inj (Except.ok.inj h)
      exact ⟨[], [], rfl, .nil, rfl⟩
    | case3 => cases h
    | case4 => cases h
    | case5 cs first after hescape _ more rest' hmore _ ih =>
      obtain ⟨rfl, rfl⟩ := Prod.mk.inj (Except.ok.inj h)
      obtain ⟨body, pieces, rfl, hrun, rfl⟩ := ih hmore
      obtain ⟨front, rfl, hfront⟩ := exists_run_of_readEscape hescape hrun
      exact ⟨'\\' :: front, _, rfl, hfront, rfl⟩
    | case6 => cases h
    | case7 c cs hquote hback more rest' hmore ih =>
      obtain ⟨rfl, rfl⟩ := Prod.mk.inj (Except.ok.inj h)
      obtain ⟨body, pieces, rfl, hrun, rfl⟩ := ih hmore
      exact ⟨c :: body, _, rfl, .plain (by simpa using hquote) hback hrun, rfl⟩
  · rintro ⟨body, pieces, rfl, hrun, rfl⟩
    have hclosed : NoDigitFirst ('"' :: rest) := by
      rintro _ ⟨⟩
      decide
    induction hrun with
    | nil => rw [List.nil_append, readQuoted]; rfl
    | @plain c cs pieces hstop hback _ ih =>
        have hquote : c ≠ '"' := by simpa using hstop
        rw [List.cons_append, readQuoted, if_neg hquote, if_neg hback, ih]
        rfl
    | octet hdigits _ ih => exact readQuoted_escape (readEscape_octet hdigits _) ih
    | character hdigits _ ih =>
        exact readQuoted_escape (readEscape_character fun hc => (hdigits hc).append hclosed) ih

/-! ## Texts -/

theorem ofChars_of_toText? {octets : Octets} {s : String} (h : Octets.toText? octets = some s) :
    octets = Octets.ofChars s.toList := by
  unfold Octets.toText? String.fromUTF8? at h
  split at h
  · next hvalid =>
    have hbytes : (⟨(Octets.ofChars s.toList).toArray⟩ : ByteArray) =
        (String.ofList s.toList).toByteArray := ByteArray.ext List.data_toByteArray.symm
    rw [String.ofList_toList] at hbytes
    obtain rfl := Option.some.inj h
    exact List.toArray_inj (ByteArray.mk.inj hbytes).symm
  · cases h

theorem textValue_eq_ok_iff {octets : Octets} {value : AttributeValue} :
    textValue octets = .ok value ↔ ∃ s, octets = Octets.ofChars s.toList ∧ value = .text s := by
  constructor
  · intro h
    unfold textValue at h
    split at h
    · next s htext => exact ⟨s, ofChars_of_toText? htext, (Except.ok.inj h).symm⟩
    · cases h
  · rintro ⟨s, rfl, rfl⟩
    rw [textValue_ofChars, String.ofList_toList]

/-- The pieces of a plain value up to the blanks at its end, and those blanks. -/
theorem exists_significant (pieces : List Piece) :
    ∃ kept dropped, pieces = kept ++ dropped ∧ plainOctets pieces = kept.flatMap (·.octets) ∧
      (∀ piece ∈ kept.getLast?, piece.isBlank = false) ∧
      ∀ piece ∈ dropped, piece.isBlank = true := by
  refine ⟨(pieces.reverse.dropWhile (·.isBlank)).reverse,
    (pieces.reverse.takeWhile (·.isBlank)).reverse, ?_, rfl, ?_, ?_⟩
  · rw [← List.reverse_append, List.takeWhile_append_dropWhile, List.reverse_reverse]
  · intro piece hpiece
    rw [List.getLast?_reverse] at hpiece
    have hfirst := List.head?_dropWhile_not (·.isBlank) pieces.reverse
    rwa [hpiece] at hfirst
  · intro piece hpiece
    exact List.mem_takeWhile_imp (List.mem_reverse.mp hpiece)

/-! ## Encoded values -/

theorem valueOfTlv_of_encoded {octets : Octets} {value : AttributeValue}
    (h : EncodedValue octets value) : valueOfTlv octets = .ok value := by
  obtain @⟨identifier, size, content, hsize⟩ := h
  generalize hlength : content.length = n at hsize
  cases hsize with
  | short hsmall =>
      simp only [List.singleton_append, valueOfTlv]
      rw [if_pos hsmall, if_pos hlength]
  | @long first octets hcount hsome hfew =>
      have hlarge : ¬first.toNat < 128 := by omega
      have hdigits : first.toNat - 128 = octets.length := by omega
      have hfits : ¬(octets.length = 0 ∨ 4 < octets.length ∨
          (octets ++ content).length < octets.length) := by
        rw [List.length_append]
        omega
      simp only [List.cons_append, valueOfTlv]
      rw [if_neg hlarge, hdigits, if_neg hfits, List.take_left, List.drop_left, if_pos hlength]

theorem encoded_of_valueOfTlv {octets : Octets} {value : AttributeValue}
    (h : valueOfTlv octets = .ok value) : EncodedValue octets value := by
  match octets with
  | [] => cases h
  | [_] => cases h
  | identifier :: first :: rest =>
    simp only [valueOfTlv] at h
    split at h
    · next hsmall =>
      split at h
      · next hlength =>
        obtain rfl := Except.ok.inj h
        have hsize : LengthOctets rest.length [first] := hlength ▸ .short hsmall
        exact .mk hsize
      · cases h
    · next hlarge =>
      split at h
      · cases h
      · next hcount =>
        split at h
        · next hlength =>
          obtain rfl := Except.ok.inj h
          have hsize : LengthOctets (rest.drop (first.toNat - 128)).length
              (first :: rest.take (first.toNat - 128)) := by
            rw [hlength]
            exact .long (by simp; omega) (by simp; omega) (by simp; omega)
          have hvalue : EncodedValue (identifier :: _) _ := .mk hsize
          rwa [List.cons_append, List.take_append_drop] at hvalue
        · cases h

theorem valueOfTlv_eq_ok_iff {octets : Octets} {value : AttributeValue} :
    valueOfTlv octets = .ok value ↔ EncodedValue octets value :=
  ⟨encoded_of_valueOfTlv, valueOfTlv_of_encoded⟩

theorem valueOfHex_eq_ok_iff {digits : List Char} {value : AttributeValue} :
    valueOfHex digits = .ok value ↔
      ∃ octets, octets.SpelledBy digits ∧ EncodedValue octets value := by
  constructor
  · intro h
    unfold valueOfHex at h
    split at h
    · next octets hoctets =>
      exact ⟨octets, Octets.ofHexChars?_eq_some_iff.mp hoctets, valueOfTlv_eq_ok_iff.mp h⟩
    · cases h
  · rintro ⟨octets, hdigits, hvalue⟩
    rw [valueOfHex, Octets.ofHexChars?_eq_some_iff.mpr hdigits]
    exact valueOfTlv_eq_ok_iff.mpr hvalue

/-! ## Values -/

theorem exists_valueText_of_readValue {cs rest : List Char} {value : AttributeValue}
    (hblank : ' ' ∉ cs.head?) (h : readValue cs = .ok (value, rest)) :
    ∃ text after, cs = text ++ (after ++ rest) ∧ ValueText text value ∧ Blanks after := by
  unfold readValue at h
  split at h
  · next tail =>
    obtain ⟨value, hhex, heq⟩ := map_eq_ok.mp h
    obtain ⟨rfl, rfl⟩ := Prod.mk.inj heq
    obtain ⟨octets, hdigits, hvalue⟩ := valueOfHex_eq_ok_iff.mp hhex
    refine ⟨'#' :: tail.takeWhile Octets.isHexDigit, [], ?_, .hex hdigits hvalue, blanks_nil⟩
    simp
  · split at h
    · cases h
    · next octets left hread =>
      obtain ⟨value, htext, heq⟩ := map_eq_ok.mp h
      obtain ⟨rfl, rfl⟩ := Prod.mk.inj heq
      obtain ⟨body, pieces, rfl, hrun, rfl⟩ := readQuoted_eq_ok_iff.mp hread
      obtain ⟨s, hs, rfl⟩ := textValue_eq_ok_iff.mp htext
      exact ⟨'"' :: (body ++ ['"']), [], by simp, .quoted hrun hs, blanks_nil⟩
  · next hhash hquote =>
    split at h
    · cases h
    · next pieces left hread =>
      obtain ⟨value, htext, heq⟩ := map_eq_ok.mp h
      obtain ⟨rfl, rfl⟩ := Prod.mk.inj heq
      obtain ⟨body, rfl, hrun, -⟩ := exists_run_of_readPieces hread
      obtain ⟨kept, dropped, rfl, hoctets, hlast, hdropped⟩ := exists_significant pieces
      obtain ⟨text, after, rfl, hkept, hafter⟩ := hrun.split
      obtain ⟨s, hs, rfl⟩ := textValue_eq_ok_iff.mp htext
      refine ⟨text, after, by simp, .plain hkept ?_ hlast (hoctets.symm.trans hs),
        hafter.blanks hdropped⟩
      cases text with
      | nil => simp
      | cons c text =>
          rintro _ ⟨⟩
          simp only [List.mem_cons, List.not_mem_nil, or_false, not_or]
          refine ⟨?_, ?_, ?_⟩
          · rintro rfl
            exact hblank rfl
          · rintro rfl
            exact hhash _ rfl
          · rintro rfl
            exact hquote _ rfl

theorem AtEnd.head?_cases {rest : List Char} (h : AtEnd rest) :
    ∀ c ∈ rest.head?, c = ',' ∨ c = ';' ∨ c = '+' := by
  simpa [AtEnd, isSeparator] using h

theorem AtEnd.noDigitFirst {after rest : List Char} (hafter : Blanks after) (hend : AtEnd rest) :
    NoDigitFirst (after ++ rest) := by
  have hrest : NoDigitFirst rest := by
    intro c hc
    rcases hend.head?_cases c hc with rfl | rfl | rfl <;> decide
  have hblanks : NoDigitFirst after := by
    intro c hc
    rw [hafter c (List.mem_of_mem_head? hc)]
    decide
  exact hblanks.append hrest

theorem readValue_digits {digits rest : List Char}
    (hdigits : ∀ c ∈ digits, Octets.isHexDigit c = true) (hrest : NoDigitFirst rest) :
    readValue ('#' :: (digits ++ rest)) = (valueOfHex digits).map (·, rest) := by
  have htaken : rest.takeWhile Octets.isHexDigit = [] ∧
      rest.dropWhile Octets.isHexDigit = rest := by
    cases rest with
    | nil => exact ⟨rfl, rfl⟩
    | cons c rest =>
        have hc : Octets.isHexDigit c = false := hrest c rfl
        simp [hc]
  rw [readValue, List.takeWhile_append_of_pos hdigits, List.dropWhile_append_of_pos hdigits,
    htaken.1, htaken.2, List.append_nil]

end NameParser

namespace ValueText

variable {after rest : List Char}

theorem readValue_quoted {body : List Char} {pieces : List Piece} {s : String}
    (hbody : Run ['"'] body pieces) (hs : Spell pieces s) (rest : List Char) :
    NameParser.readValue ('"' :: (body ++ '"' :: rest)) = .ok (.text s, rest) := by
  have hread : readQuoted (body ++ '"' :: rest) = .ok (pieces.flatMap (·.octets), rest) :=
    readQuoted_eq_ok_iff.mpr ⟨body, pieces, rfl, hbody, rfl⟩
  have htext := textValue_eq_ok_iff.mpr ⟨s, hs, rfl⟩
  simp only [NameParser.readValue]
  rw [hread]
  dsimp only
  rw [htext]
  rfl

/-- Blanks before the end are not part of a plain value, and where the value is empty, they are
already skipped before it. -/
theorem readValue_plain {body : List Char} {pieces : List Piece} {s : String}
    (hbody : Run [',', ';', '+'] body pieces) (hfirst : ∀ c ∈ body.head?, c ∉ [' ', '#', '"'])
    (hlast : ∀ piece ∈ pieces.getLast?, piece.isBlank = false) (hs : Spell pieces s)
    (hafter : Blanks after) (hend : AtEnd rest) :
    NameParser.readValue (skipBlanks (body ++ (after ++ rest))) = .ok (.text s, rest) := by
  obtain ⟨blanks, hblanks, hskip, hhead⟩ : ∃ blanks, Blanks blanks ∧
      skipBlanks (body ++ (after ++ rest)) = body ++ (blanks ++ rest) ∧
      ∀ c ∈ (body ++ (blanks ++ rest)).head?, c ∉ [' ', '#', '"'] := by
    cases body with
    | nil =>
        refine ⟨[], blanks_nil, ?_, fun c hc => ?_⟩
        · rw [List.nil_append, skipBlanks_append hafter, hend.skipBlanks]
          rfl
        · rcases hend.head?_cases c hc with rfl | rfl | rfl <;> decide
    | cons c body =>
        refine ⟨after, hafter, skipBlanks_of_head fun hblank => ?_, hfirst⟩
        exact absurd (hfirst _ hblank) (by decide)
  have hread := hbody.readPieces (AtEnd.noDigitFirst hblanks hend) (readPieces_blanks hblanks hend)
  have htext := textValue_eq_ok_iff.mpr ⟨s, hs, rfl⟩
  rw [hskip, readValue_of_plain (fun h => absurd (hhead _ h) (by decide))
    (fun h => absurd (hhead _ h) (by decide)) hread, plainOctets_append hlast hblanks, htext]
  rfl

theorem readValue {text : List Char} {value : AttributeValue} (h : ValueText text value)
    (hafter : Blanks after) (hend : AtEnd rest) :
    ∃ left, NameParser.readValue (skipBlanks (text ++ (after ++ rest))) = .ok (value, left) ∧
      skipBlanks left = rest := by
  have hskip : skipBlanks (after ++ rest) = rest := by
    rw [skipBlanks_append hafter, hend.skipBlanks]
  cases h with
  | hex hdigits hvalue =>
      have hread := readValue_digits hdigits.isHexDigit (AtEnd.noDigitFirst hafter hend)
      rw [valueOfHex_eq_ok_iff.mpr ⟨_, hdigits, hvalue⟩] at hread
      exact ⟨_, hread, hskip⟩
  | quoted hbody hs =>
      have hread := readValue_quoted hbody hs (after ++ rest)
      refine ⟨_, ?_, hskip⟩
      rw [← hread, skipBlanks_of_head (by simp)]
      simp
  | plain hbody hfirst hlast hs =>
      exact ⟨_, readValue_plain hbody hfirst hlast hs hafter hend, hend.skipBlanks⟩

end ValueText

end TrustPath
