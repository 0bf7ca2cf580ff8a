import Mathlib.Data.List.Forall2
import TrustPath.Proofs.Name.Reading
import TrustPath.Proofs.Name.Separated

/-!
# Reading what was written

The reader of names undoes each step of the printer. A value is read back
from its escaped form whatever stands after it, as long as that is the end
or a separator, blanks aside (`readValue_escapeFrom`). An attribute is
read back from its type, an equals sign and that form
(`Writes.of_parts`), a relative name from attributes joined by a plus sign,
and a name from relative names joined by a comma (`readName_of_written`),
with blanks around each of them as the string form has it.
-/

namespace TrustPath.NameParser

/-! ## Blanks and ends -/

def Blanks (cs : List Char) : Prop := ∀ c ∈ cs, c = ' '

/-- What comes after a plain value and its blanks: nothing, or a separator. -/
def AtEnd (cs : List Char) : Prop := ∀ c ∈ cs.head?, isSeparator c = true

theorem blanks_nil : Blanks [] := fun _ hc => absurd hc List.not_mem_nil

theorem blanks_one : Blanks [' '] := fun _ hc => List.mem_singleton.mp hc

theorem skipBlanks_append {blanks : List Char} (h : Blanks blanks) (rest : List Char) :
    skipBlanks (blanks ++ rest) = skipBlanks rest :=
  List.dropWhile_append_of_pos fun c hc => by simpa using h c hc

theorem skipBlanks_of_head {cs : List Char} (h : ' ' ∉ cs.head?) : skipBlanks cs = cs := by
  cases cs with
  | nil => rfl
  | cons c rest => exact List.dropWhile_cons_of_neg (by simpa using h)

theorem AtEnd.skipBlanks {rest : List Char} (h : AtEnd rest) : skipBlanks rest = rest :=
  skipBlanks_of_head fun hblank => absurd (h _ hblank) (by decide)

/-! ## Values -/

theorem readPieces_plain {c : Char} {rest after : List Char} {pieces : List Piece}
    (hseparator : isSeparator c = false) (hback : c ≠ '\\')
    (h : readPieces rest = .ok (pieces, after)) :
    readPieces (c :: rest) = .ok (.plain c :: pieces, after) := by
  rw [readPieces, if_neg (by simp [hseparator]), if_neg hback, h]

theorem readPieces_escape {cs rest after : List Char} {octets : Octets} {pieces : List Piece}
    (hescape : readEscape cs = .ok (octets, rest)) (h : readPieces rest = .ok (pieces, after)) :
    readPieces ('\\' :: cs) = .ok (.escaped octets :: pieces, after) := by
  rw [readPieces, if_neg (by decide), if_pos rfl]
  split
  · next hfault => cases hescape.symm.trans hfault
  · next heq =>
    obtain ⟨rfl, rfl⟩ := Prod.mk.inj (Except.ok.inj (hescape.symm.trans heq))
    rw [h]

/-- A backslash takes the next character as it is, unless that is a hexadecimal digit. -/
theorem readPieces_escaped {c : Char} {rest after : List Char} {pieces : List Piece}
    (hdigit : Octets.hexValue? c = none) (h : readPieces rest = .ok (pieces, after)) :
    readPieces ('\\' :: c :: rest) =
      .ok (.escaped (String.utf8EncodeChar c) :: pieces, after) :=
  readPieces_escape (by simp [readEscape, hdigit]) h

theorem readPieces_blanks {blanks rest : List Char} (hblanks : Blanks blanks) (hend : AtEnd rest) :
    readPieces (blanks ++ rest) = .ok (blanks.map .plain, rest) := by
  induction blanks with
  | nil =>
      cases rest with
      | nil => rw [List.nil_append, readPieces]; rfl
      | cons c rest => rw [List.nil_append, readPieces, if_pos (hend c rfl)]; rfl
  | cons c blanks ih =>
      obtain ⟨rfl, hmore⟩ := List.forall_mem_cons.mp hblanks
      rw [List.cons_append, readPieces_plain (by decide) (by decide) (ih hmore)]
      rfl

/-- The pieces of an escaped text are its characters, the last of them not a blank that could be
taken for one that follows. -/
theorem readPieces_escapeFrom {blanks rest : List Char} (hblanks : Blanks blanks)
    (hend : AtEnd rest) (atStart : Bool) (cs : List Char) :
    ∃ pieces, readPieces (escapeFrom atStart cs ++ (blanks ++ rest)) =
        .ok (pieces ++ blanks.map .plain, rest) ∧
      pieces.flatMap (·.octets) = Octets.ofChars cs ∧ pieces.length = cs.length ∧
      ∀ piece ∈ pieces.getLast?, piece.isBlank = false := by
  induction cs generalizing atStart with
  | nil => exact ⟨[], readPieces_blanks hblanks hend, rfl, rfl, by simp⟩
  | cons c cs ih =>
      obtain ⟨pieces, hread, hoctets, hlength, hlast⟩ := ih false
      -- a blank is written as it is only where a character follows it
      have hlast : ∀ piece : Piece, (cs = [] → piece.isBlank = false) →
          ∀ last ∈ (piece :: pieces).getLast?, last.isBlank = false := by
        intro piece hpiece
        cases pieces with
        | nil =>
            have hnil : cs = [] := List.length_eq_zero_iff.mp hlength.symm
            simpa using hpiece hnil
        | cons next more => simpa [List.getLast?_cons_cons] using hlast
      rcases escapeFrom_cons atStart c cs with ⟨hform, hdigit⟩ | ⟨hform, hplain, -, hfinal⟩
      · refine ⟨.escaped (String.utf8EncodeChar c) :: pieces, ?_, congrArg (_ ++ ·) hoctets,
          congrArg (· + 1) hlength, hlast _ fun _ => rfl⟩
        rw [hform]
        exact readPieces_escaped hdigit hread
      · have hspecial : isSeparator c = false ∧ c ≠ '\\' := by
          simp only [isSpecial, decide_eq_false_iff_not, List.mem_cons, List.not_mem_nil, or_false,
            not_or] at hplain
          simp [isSeparator, hplain]
        refine ⟨.plain c :: pieces, ?_, congrArg (_ ++ ·) hoctets, congrArg (· + 1) hlength,
          hlast _ fun hnil => by simpa [Piece.isBlank] using hfinal hnil⟩
        rw [hform]
        exact readPieces_plain hspecial.1 hspecial.2 hread

theorem plainOctets_append {pieces : List Piece} {blanks : List Char}
    (hlast : ∀ piece ∈ pieces.getLast?, piece.isBlank = false) (hblanks : Blanks blanks) :
    plainOctets (pieces ++ blanks.map .plain) = pieces.flatMap (·.octets) := by
  have hdropped : ∀ piece ∈ (blanks.map Piece.plain).reverse, piece.isBlank = true := by
    intro piece hpiece
    obtain ⟨c, hc, rfl⟩ := List.mem_map.mp (List.mem_reverse.mp hpiece)
    simpa [Piece.isBlank] using hblanks c hc
  have hkept : pieces.reverse.dropWhile (·.isBlank) = pieces.reverse := by
    rw [← List.head?_reverse] at hlast
    cases h : pieces.reverse with
    | nil => rfl
    | cons piece more => exact List.dropWhile_cons_of_neg (by simp [hlast piece (by rw [h]; rfl)])
  rw [plainOctets, List.reverse_append, List.dropWhile_append_of_pos hdropped, hkept,
    List.reverse_reverse]

theorem textValue_ofChars (cs : List Char) :
    textValue (Octets.ofChars cs) = .ok (.text (String.ofList cs)) := by
  rw [textValue, Octets.toText?_ofChars]

theorem readValue_of_plain {cs rest : List Char} {pieces : List Piece}
    (hhash : '#' ∉ cs.head?) (hquote : '"' ∉ cs.head?) (h : readPieces cs = .ok (pieces, rest)) :
    readValue cs = (textValue (plainOctets pieces)).map (·, rest) := by
  unfold readValue
  split
  · simp at hhash
  · simp at hquote
  · rw [h]

theorem readValue_escapeFrom {blanks rest : List Char} (hblanks : Blanks blanks)
    (hend : AtEnd rest) (cs : List Char) :
    readValue (skipBlanks (escapeFrom true cs ++ (blanks ++ rest))) =
      .ok (.text (String.ofList cs), rest) := by
  cases cs with
  | nil =>
      have hread := readPieces_blanks blanks_nil hend
      have hskip : skipBlanks (escapeFrom true [] ++ (blanks ++ rest)) = rest := by
        rw [escapeFrom, List.nil_append, skipBlanks_append hblanks, hend.skipBlanks]
      rw [hskip, readValue_of_plain (fun h => absurd (hend _ h) (by decide))
        (fun h => absurd (hend _ h) (by decide)) hread]
      rfl
  | cons c cs =>
      obtain ⟨pieces, hread, hoctets, -, hlast⟩ :=
        readPieces_escapeFrom hblanks hend true (c :: cs)
      have hhead := head?_escapeFrom_cons c cs (blanks ++ rest)
      rw [skipBlanks_of_head fun h => absurd (hhead _ h) (by decide),
        readValue_of_plain (fun h => absurd (hhead _ h) (by decide))
          (fun h => absurd (hhead _ h) (by decide)) hread,
        plainOctets_append hlast hblanks, hoctets, textValue_ofChars]
      rfl

/-! ## Attributes -/

theorem cutType_append {type : List Char} (h : ∀ c ∈ type, c ∉ ['=', ',', ';', '+', '"', '\\'])
    (rest : List Char) : cutType (type ++ '=' :: rest) = .ok (type, rest) := by
  induction type with
  | nil => rfl
  | cons c type ih =>
      obtain ⟨hc, htype⟩ := List.forall_mem_cons.mp h
      rw [List.mem_cons, not_or] at hc
      obtain ⟨hequals, hplain⟩ := hc
      rw [List.cons_append, cutType, if_neg hequals, if_neg hplain, ih htype]

theorem trim_eq_self {cs : List Char} (h : ∀ c ∈ cs, Text.isBlank c = false) :
    Text.trim cs = cs := by
  have hkept : ∀ ds : List Char, (∀ c ∈ ds, Text.isBlank c = false) →
      ds.dropWhile Text.isBlank = ds := by
    intro ds hds
    cases ds with
    | nil => rfl
    | cons c ds => exact List.dropWhile_cons_of_neg (by simp [hds c])
  rw [Text.trim, Text.trimStart, hkept cs h, Text.trimEnd,
    hkept _ fun c hc => h c (List.mem_reverse.mp hc), List.reverse_reverse]

/-- A text spells an attribute type: it has no character with a meaning before an equals sign, and
no white space to trim. -/
structure Spells (type : List Char) (oid : String) : Prop where
  plain : ∀ c ∈ type, c ∉ ['=', ',', ';', '+', '"', '\\']
  tight : ∀ c ∈ type, Text.isBlank c = false
  oidOf : oidOf? type = some oid

theorem Spells.readType {type : List Char} {oid : String} (h : Spells type oid)
    (rest : List Char) : readType (type ++ '=' :: rest) = .ok (oid, rest) := by
  have hnone : oidOf? [] = none := by decide
  have hne : type.isEmpty = false := by
    cases type with
    | nil => cases hnone.symm.trans h.oidOf
    | cons c type => rfl
  rw [NameParser.readType, cutType_append h.plain]
  dsimp only
  rw [trim_eq_self h.tight, hne, if_neg Bool.false_ne_true, h.oidOf]

/-- After a type that is spelled, and the blanks before it, comes the value. -/
theorem Spells.readAttribute {type before : List Char} {oid : String} (htype : Spells type oid)
    (hbefore : Blanks before) (left : List Char) :
    readAttribute (before ++ (type ++ '=' :: left)) =
      (readValue (skipBlanks left)).map fun read => (⟨oid, read.1⟩, skipBlanks read.2) := by
  have hskip : skipBlanks (before ++ (type ++ '=' :: left)) = type ++ '=' :: left := by
    rw [skipBlanks_append hbefore, skipBlanks_of_head]
    cases type with
    | nil => simp
    | cons c type =>
        intro hblank
        obtain rfl : c = ' ' := by simpa using hblank
        exact absurd (htype.tight ' ' (List.mem_cons_self ..)) (by decide)
  rw [NameParser.readAttribute, hskip, htype.readType]
  dsimp only
  cases readValue (skipBlanks left) <;> rfl

/-- A text is read as an attribute, with blanks around it and up to the end or a separator. -/
def Writes (text : List Char) (attr : Attribute) : Prop :=
  ∀ before after rest : List Char, Blanks before → Blanks after → AtEnd rest →
    readAttribute (before ++ text ++ (after ++ rest)) = .ok (attr, rest)

theorem Writes.of_parts {type : List Char} {oid : String} (htype : Spells type oid)
    (cs : List Char) :
    Writes (type ++ '=' :: escapeFrom true cs) ⟨oid, .text (String.ofList cs)⟩ := by
  intro before after rest hbefore hafter hend
  have hread := htype.readAttribute hbefore (escapeFrom true cs ++ (after ++ rest))
  rw [readValue_escapeFrom hafter hend] at hread
  rw [List.append_assoc, List.append_assoc, List.cons_append, hread]
  simp [Except.map, hend.skipBlanks]

/-! ## Relative names and names -/

/-- What follows a relative name: the end, or a comma and more relative names. -/
inductive Continues : List Char → List Rdn → Prop
  | done : Continues [] []
  | comma {rest : List Char} {rdns : List Rdn} (h : ReadsRdns [] rest rdns) :
      Continues (',' :: rest) rdns

/-- Blanks, a character, and blanks. -/
def Padded (c : Char) (joiner : List Char) : Prop :=
  ∃ after before, joiner = after ++ c :: before ∧ Blanks after ∧ Blanks before

theorem Writes.readsRdns {text tail before : List Char} {attr : Attribute} {more : List Rdn}
    (h : Writes text attr) (hbefore : Blanks before) (htail : Continues tail more)
    (read : List Attribute) :
    ReadsRdns read (before ++ text ++ tail) (⟨read ++ [attr]⟩ :: more) := by
  cases htail with
  | done => exact .last (h before [] [] hbefore blanks_nil (by simp [AtEnd]))
  | @comma rest _ hrest =>
      have hend : AtEnd (',' :: rest) := by simp [AtEnd, isSeparator]
      exact .next (h before [] _ hbefore blanks_nil hend) (.inl rfl) hrest

/-- Attributes with plus signs between them are read one after another. -/
theorem readsRdns_of_joined {joiner : List Char} (hjoiner : Padded '+' joiner)
    {texts : List (List Char)} {attrs : List Attribute} (h : List.Forall₂ Writes texts attrs)
    (hne : texts ≠ []) {before tail : List Char} {more : List Rdn} (hbefore : Blanks before)
    (htail : Continues tail more) (read : List Attribute) :
    ReadsRdns read (before ++ joiner.intercalate texts ++ tail) (⟨read ++ attrs⟩ :: more) := by
  obtain ⟨left, right, rfl, hleft, hright⟩ := hjoiner
  induction h generalizing before read with
  | nil => exact absurd rfl hne
  | @cons text attr texts attrs hattr hattrs ih =>
      cases hattrs with
      | nil => simpa using hattr.readsRdns hbefore htail read
      | @cons next nextAttr texts attrs hnext hmore =>
          -- the blanks after a plus sign are those before the next attribute
          have hrest := ih (List.cons_ne_nil _ _) hright (read ++ [attr])
          have hend : AtEnd ('+' :: (right ++
              (left ++ '+' :: right).intercalate (next :: texts) ++ tail)) := by
            simp [AtEnd, isSeparator]
          have hfirst := hattr before left _ hbefore hleft hend
          rw [List.append_assoc read, List.singleton_append] at hrest
          refine .joined ?_ hrest
          rw [← hfirst, List.intercalate_cons_cons]
          simp

/-- Relative names with commas between them are read one after another. -/
theorem readsRdns_of_rows {joiner separator : List Char} (hjoiner : Padded '+' joiner)
    {after : List Char} (hseparator : separator = ',' :: after) (hafter : Blanks after)
    {rows : List (List (List Char))} {rdns : List Rdn}
    (h : List.Forall₂ (fun row rdn => row ≠ [] ∧ List.Forall₂ Writes row rdn.attributes) rows rdns)
    (hne : rows ≠ []) {before : List Char} (hbefore : Blanks before) :
    ReadsRdns [] (before ++ separator.intercalate (rows.map joiner.intercalate)) rdns := by
  subst hseparator
  induction h generalizing before with
  | nil => exact absurd rfl hne
  | @cons row rdn rows rdns hrow hrows ih =>
      obtain ⟨hrowNe, hwrites⟩ := hrow
      cases hrows with
      | nil =>
          have hlast := readsRdns_of_joined hjoiner hwrites hrowNe hbefore .done []
          simpa using hlast
      | @cons next nextRdn rows rdns hnext hmore =>
          have hrest := ih (List.cons_ne_nil _ _) hafter
          have hfirst := readsRdns_of_joined hjoiner hwrites hrowNe hbefore (.comma hrest) []
          rw [List.map_cons, List.map_cons, List.intercalate_cons_cons]
          simpa using hfirst

/-- What is written relative name by relative name, the most specific first, is read as a whole. -/
theorem readName_of_written {joiner separator after : List Char} (hjoiner : Padded '+' joiner)
    (hseparator : separator = ',' :: after) (hafter : Blanks after)
    {rows : List (List (List Char))} {rdns : List Rdn}
    (h : List.Forall₂ (fun row rdn => row ≠ [] ∧ List.Forall₂ Writes row rdn.attributes)
      rows rdns) :
    readName (separator.intercalate (rows.map joiner.intercalate)) = .ok ⟨rdns.reverse⟩ := by
  cases h with
  | nil => rfl
  | cons hrow hrows =>
      have hreads := readsRdns_of_rows hjoiner hseparator hafter (.cons hrow hrows)
        (List.cons_ne_nil _ _) blanks_nil
      rw [List.nil_append] at hreads
      rw [readName, hreads.skipBlanks, if_neg Bool.false_ne_true, hreads.readRdns_eq]

end TrustPath.NameParser
