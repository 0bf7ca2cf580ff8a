import Mathlib.Data.Bool.AllAny
import TrustPath.Pem
import TrustPath.Proofs.Base64
import TrustPath.Proofs.Octets
import TrustPath.Proofs.Text.Split
import TrustPath.Settings.Basic

/-!
# PEM texts are read back

A text is written with blocks in it line by line (`Holds`, `Written`): a
first line with the label, lines of Base64 of any lengths, and a last line
with the label again. Behind a block there may be lines that belong to
none. A line may end with a line feed, with or without a carriage return,
or with the two characters `\n` for the line feed.

These two characters become line feeds and nothing else changes
(`unescape_written`), the text is cut into its lines (`lines_unescaped`),
and from the lines the blocks are read (`Holds.read`), so a text is read
as the blocks that were written in it (`Written.blocks`).
-/

namespace TrustPath

namespace Pem

/-! ## Lines -/

/-- How a line ends: with a line feed, perhaps after a carriage return, or
with the two characters `\n` in place of the line feed. The last line of a
text may be without an end. -/
inductive LineEnd
  | missing
  | feed
  | returnFeed
  | escaped
  | returnEscaped

/-- A line end as it is written. -/
def LineEnd.written : LineEnd → List Char
  | missing => []
  | feed => ['\n']
  | returnFeed => ['\r', '\n']
  | escaped => ['\\', 'n']
  | returnEscaped => ['\r', '\\', 'n']

/-- A line end once line feeds are put in place of what stands for them. -/
def LineEnd.unescaped : LineEnd → List Char
  | missing => []
  | feed | escaped => ['\n']
  | returnFeed | returnEscaped => ['\r', '\n']

structure Line where
  chars : List Char
  ending : LineEnd

def Line.written (line : Line) : List Char := line.chars ++ line.ending.written

def Line.unescaped (line : Line) : List Char := line.chars ++ line.ending.unescaped

/-- No line end is within a line. -/
structure Line.Unbroken (line : Line) : Prop where
  feed : '\n' ∉ line.chars
  escaped : ¬ ['\\', 'n'] <:+: line.chars

/-- Only the last line may be without an end, unless it is empty. -/
def Ended : List Line → Prop
  | [] => True
  | line :: lines => (line.ending = .missing → lines = [] ∧ line.chars ≠ []) ∧ Ended lines

/-! ## Line ends -/

theorem unescapeLineEnds_cons {c : Char} {cs : List Char} (h : c = '\\' → cs.head? ≠ some 'n') :
    unescapeLineEnds (c :: cs) = c :: unescapeLineEnds cs := by
  rw [unescapeLineEnds]
  rintro rest rfl rfl
  exact h rfl rfl

/-- Where no line end is written with two characters, nothing changes. -/
theorem unescapeLineEnds_append : ∀ {cs rest : List Char}, ¬ ['\\', 'n'] <:+: cs →
    rest.head? ≠ some 'n' → unescapeLineEnds (cs ++ rest) = cs ++ unescapeLineEnds rest
  | [], _, _, _ => rfl
  | c :: cs, rest, h, hrest => by
      have hinner : ¬ ['\\', 'n'] <:+: cs :=
        fun hin => h (hin.trans (List.suffix_cons c cs).isInfix)
      have hnext : c = '\\' → (cs ++ rest).head? ≠ some 'n' := by
        rintro rfl hhead
        cases cs with
        | nil => exact hrest hhead
        | cons d ds =>
            obtain rfl : d = 'n' := Option.some.inj hhead
            exact h (List.prefix_append ['\\', 'n'] ds).isInfix
      rw [List.cons_append, unescapeLineEnds_cons hnext, unescapeLineEnds_append hinner hrest,
        List.cons_append]

theorem unescapeLineEnds_feed (rest : List Char) :
    unescapeLineEnds ('\n' :: rest) = '\n' :: unescapeLineEnds rest :=
  unescapeLineEnds_cons fun h => absurd h (by decide)

theorem unescapeLineEnds_return (rest : List Char) :
    unescapeLineEnds ('\r' :: rest) = '\r' :: unescapeLineEnds rest :=
  unescapeLineEnds_cons fun h => absurd h (by decide)

theorem LineEnd.unescape {ending : LineEnd} (hend : ending ≠ .missing) (rest : List Char) :
    unescapeLineEnds (ending.written ++ rest) = ending.unescaped ++ unescapeLineEnds rest := by
  cases ending with
  | missing => exact absurd rfl hend
  | feed => exact unescapeLineEnds_feed rest
  | returnFeed => exact (unescapeLineEnds_return _).trans (congrArg _ (unescapeLineEnds_feed rest))
  | escaped => rfl
  | returnEscaped => exact unescapeLineEnds_return _

theorem LineEnd.head?_written {ending : LineEnd} (hend : ending ≠ .missing) (rest : List Char) :
    (ending.written ++ rest).head? ≠ some 'n' := by
  cases ending with
  | missing => exact absurd rfl hend
  | feed | returnFeed | escaped | returnEscaped =>
      exact fun h => absurd (Option.some.inj h) (by decide)

theorem Line.Unbroken.unescape {line : Line} (h : line.Unbroken) {rest : List Char}
    (hend : line.ending = .missing → rest = []) :
    unescapeLineEnds (line.written ++ rest) = line.unescaped ++ unescapeLineEnds rest := by
  rw [Line.written, Line.unescaped, List.append_assoc, List.append_assoc]
  by_cases hmissing : line.ending = .missing
  · obtain rfl := hend hmissing
    rw [hmissing]
    exact unescapeLineEnds_append h.escaped nofun
  · rw [unescapeLineEnds_append h.escaped (LineEnd.head?_written hmissing rest),
      LineEnd.unescape hmissing]

/-- Of lines as they are written all line ends become line feeds. -/
theorem unescape_written : ∀ {lines : List Line}, Ended lines → (∀ line ∈ lines, line.Unbroken) →
    unescapeLineEnds (lines.flatMap Line.written) = lines.flatMap Line.unescaped
  | [], _, _ => rfl
  | line :: lines, hended, hunbroken => by
      obtain ⟨hend, hended⟩ := hended
      obtain ⟨hline, hunbroken⟩ := List.forall_mem_cons.mp hunbroken
      have hrest : line.ending = .missing → lines.flatMap Line.written = [] := by
        intro hmissing
        obtain ⟨rfl, -⟩ := hend hmissing
        rfl
      rw [List.flatMap_cons, List.flatMap_cons, hline.unescape hrest,
        unescape_written hended hunbroken]

/-! ## Cutting into lines -/

theorem linesFrom_feed {octets : Octets} (h : 10 ∉ octets) (line rest : Octets) :
    linesFrom line (octets ++ 10 :: rest)
      = (line.reverse ++ octets ++ [10]) :: linesFrom [] rest := by
  induction octets generalizing line with
  | nil => simp [linesFrom]
  | cons b octets ih =>
      obtain ⟨hb, h⟩ := not_or.mp (mt List.mem_cons.mpr h)
      rw [List.cons_append, linesFrom, if_neg (Ne.symm hb), ih h]
      simp

theorem linesFrom_last {octets : Octets} (h : 10 ∉ octets) (line : Octets)
    (hne : line ≠ [] ∨ octets ≠ []) : linesFrom line octets = [line.reverse ++ octets] := by
  induction octets generalizing line with
  | nil =>
      rw [linesFrom, if_neg (mt List.isEmpty_iff.mp (hne.resolve_right (absurd rfl))),
        List.append_nil]
  | cons b octets ih =>
      obtain ⟨hb, h⟩ := not_or.mp (mt List.mem_cons.mpr h)
      rw [linesFrom, if_neg (Ne.symm hb), ih h _ (Or.inl (List.cons_ne_nil _ _))]
      simp

theorem LineEnd.unescaped_eq {ending : LineEnd} (h : ending ≠ .missing) :
    ∃ before, ending.unescaped = before ++ ['\n'] ∧ '\n' ∉ before := by
  cases ending with
  | missing => exact absurd rfl h
  | feed | escaped => exact ⟨[], rfl, List.not_mem_nil⟩
  | returnFeed | returnEscaped => exact ⟨['\r'], rfl, by decide⟩

theorem feed_not_mem {cs : List Char} (h : '\n' ∉ cs) : 10 ∉ Octets.ofChars cs :=
  fun hin => h (Octets.mem_ofChars hin (by decide))

/-- Unescaped lines are read as such. -/
theorem lines_unescaped : ∀ {lines : List Line}, Ended lines → (∀ line ∈ lines, line.Unbroken) →
    Pem.lines (Octets.ofChars (lines.flatMap Line.unescaped))
      = lines.map fun line => Octets.ofChars line.unescaped
  | [], _, _ => rfl
  | line :: more, hended, hunbroken => by
      obtain ⟨hend, hended⟩ := hended
      obtain ⟨hline, hunbroken⟩ := List.forall_mem_cons.mp hunbroken
      have hmore := lines_unescaped hended hunbroken
      rw [Pem.lines] at hmore ⊢
      rw [List.flatMap_cons, Octets.ofChars_append, List.map_cons]
      by_cases hmissing : line.ending = .missing
      · obtain ⟨rfl, hne⟩ := hend hmissing
        have hchars : line.unescaped = line.chars := by
          rw [Line.unescaped, hmissing]
          exact List.append_nil _
        rw [hchars, List.flatMap_nil, show Octets.ofChars [] = [] from rfl, List.append_nil,
          linesFrom_last (feed_not_mem hline.feed) [] (Or.inr (Octets.ofChars_ne_nil hne))]
        rfl
      · obtain ⟨before, hbefore, hnot⟩ := LineEnd.unescaped_eq hmissing
        have hfeed : 10 ∉ Octets.ofChars (line.chars ++ before) :=
          feed_not_mem fun hin => (List.mem_append.mp hin).elim hline.feed hnot
        have hsplit : Octets.ofChars line.unescaped
            = Octets.ofChars (line.chars ++ before) ++ [10] := by
          rw [Line.unescaped, hbefore, ← List.append_assoc, Octets.ofChars_append]
          rfl
        rw [hsplit, List.append_assoc, List.singleton_append, linesFrom_feed hfeed, hmore]
        rfl

/-! ## Blocks -/

def beginLine (label : String) : List Char :=
  "-----BEGIN ".toList ++ (label.toList ++ "-----".toList)

def endLine (label : String) : List Char :=
  "-----END ".toList ++ (label.toList ++ "-----".toList)

/-- What may stand between the hyphens: it has no line end in it, and the
hyphens behind it are the first five in a row. -/
structure IsLabel (label : String) : Prop where
  feed : '\n' ∉ label.toList
  escaped : ¬ ['\\', 'n'] <:+: label.toList
  hyphens : ¬ "-----".toList <:+: label.toList ++ "----".toList

/-- Lines hold blocks, each with a first and a last line around lines of
Base64 of any lengths, and perhaps lines behind it that begin no block. -/
inductive Holds : List PemBlock → List Line → Prop
  | nil : Holds [] []
  | block {block : PemBlock} {first last : Line} {body between lines : List Line}
      {blocks : List PemBlock} (hlabel : IsLabel block.label)
      (hfirst : first.chars = beginLine block.label)
      (hbody : body.flatMap Line.chars = Base64.encodeChars block.contents)
      (hlast : last.chars = endLine block.label)
      (hbetween : ∀ line ∈ between, line.Unbroken ∧ ¬ "-----BEGIN ".toList <+: line.chars)
      (hmore : Holds blocks lines) :
      Holds (block :: blocks) (first :: (body ++ last :: (between ++ lines)))

/-- Two texts without an escaped line end have none where they meet,
unless it is there that one is made. -/
theorem not_escaped_append : ∀ {cs ds : List Char}, ¬ ['\\', 'n'] <:+: cs → ¬ ['\\', 'n'] <:+: ds →
    (cs.getLast? = some '\\' → ds.head? ≠ some 'n') → ¬ ['\\', 'n'] <:+: cs ++ ds
  | [], _, _, hds, _ => hds
  | [c], ds, _, hds, hjoin => by
      intro h
      rcases List.infix_cons_iff.mp h with hfront | hlater
      · obtain ⟨hc, hnext⟩ := List.cons_prefix_cons.mp hfront
        obtain ⟨rest, rfl⟩ := hnext
        exact hjoin (congrArg some hc.symm) rfl
      · exact hds hlater
  | c :: d :: cs, ds, hcs, hds, hjoin => by
      have hinner : ¬ ['\\', 'n'] <:+: d :: cs :=
        fun hin => hcs (List.infix_cons_iff.mpr (Or.inr hin))
      intro h
      rcases List.infix_cons_iff.mp h with hfront | hlater
      · obtain ⟨rfl, hnext⟩ := List.cons_prefix_cons.mp hfront
        obtain ⟨rfl, -⟩ := List.cons_prefix_cons.mp hnext
        exact hcs (List.prefix_append ['\\', 'n'] cs).isInfix
      · rw [List.getLast?_cons_cons] at hjoin
        exact not_escaped_append hinner hds hjoin hlater

/-- No character is part of a line end. -/
def Plain (cs : List Char) : Prop := ∀ c ∈ cs, c ≠ '\r' ∧ c ≠ '\n' ∧ c ≠ '\\'

theorem plain_begin : Plain "-----BEGIN ".toList := List.all_iff_forall_prop.mp (by decide)

theorem plain_end : Plain "-----END ".toList := List.all_iff_forall_prop.mp (by decide)

theorem unbroken_of_label {line : Line} {label : String} (hlabel : IsLabel label)
    {lead : List Char} (hlead : Plain lead)
    (hline : line.chars = lead ++ (label.toList ++ "-----".toList)) : line.Unbroken := by
  have hclear : ¬ ['\\', 'n'] <:+: lead :=
    fun h => (hlead '\\' (h.subset List.mem_cons_self)).2.2 rfl
  constructor
  · rw [hline]
    intro h
    rcases List.mem_append.mp h with h | h
    · exact (hlead _ h).2.1 rfl
    · rcases List.mem_append.mp h with h | h
      · exact hlabel.feed h
      · exact absurd h (by decide)
  · rw [hline]
    refine not_escaped_append hclear ?_ fun hlast => ?_
    · exact not_escaped_append hlabel.escaped (by decide) fun _ => by decide
    · exact absurd rfl (hlead _ (List.mem_of_getLast? hlast)).2.2

theorem unbroken_of_digits {line : Line} (h : ∀ c ∈ line.chars, Base64.IsDigit c) :
    line.Unbroken := by
  constructor
  · intro hin
    exact (h '\n' hin).of_all (p := (· ≠ '\n')) (by decide) (by decide) rfl
  · intro hin
    have hback := h '\\' (hin.subset List.mem_cons_self)
    exact hback.of_all (p := (· ≠ '\\')) (by decide) (by decide) rfl

theorem isDigit_of_body {body : List Line} {contents : Octets}
    (hbody : body.flatMap Line.chars = Base64.encodeChars contents) :
    ∀ line ∈ body, ∀ c ∈ line.chars, Base64.IsDigit c := by
  intro line hline c hc
  exact Base64.isDigit_of_mem (hbody ▸ List.mem_flatMap.mpr ⟨line, hline, hc⟩)

theorem Holds.unbroken {blocks : List PemBlock} {lines : List Line} (h : Holds blocks lines) :
    ∀ line ∈ lines, line.Unbroken := by
  induction h with
  | nil => exact nofun
  | block hlabel hfirst hbody hlast hbetween _ ih =>
      refine List.forall_mem_cons.mpr ⟨unbroken_of_label hlabel plain_begin hfirst, ?_⟩
      refine List.forall_mem_append.mpr
        ⟨fun line hline => unbroken_of_digits (isDigit_of_body hbody line hline), ?_⟩
      refine List.forall_mem_cons.mpr ⟨unbroken_of_label hlabel plain_end hlast, ?_⟩
      exact List.forall_mem_append.mpr ⟨fun line hline => (hbetween line hline).1, ih⟩

/-! ## Reading the blocks -/

theorem chars_ofChars (cs : List Char) : chars (Octets.ofChars cs) = .ok cs := by
  rw [chars, Octets.toText?_ofChars]
  exact congrArg Except.ok String.toList_ofList

theorem readBlocks_passed {cs : List Char} (h : Text.stripStart? "-----BEGIN ".toList cs = none)
    (rest : List Octets) :
    readBlocks none (Octets.ofChars cs :: rest) = readBlocks none rest := by
  rw [readBlocks, chars_ofChars]
  dsimp only [bind, Except.bind]
  rw [h]

theorem readBlocks_opened {cs after : List Char} {label : String}
    (h : Text.stripStart? "-----BEGIN ".toList cs = some after) (hlabel : label? after = some label)
    (rest : List Octets) :
    readBlocks none (Octets.ofChars cs :: rest) = readBlocks (some (label, [])) rest := by
  rw [readBlocks, chars_ofChars]
  dsimp only [bind, Except.bind]
  rw [h]
  dsimp only
  rw [hlabel]

theorem readBlocks_inside (label : String) (text cs : List Char) (rest : List Octets) :
    readBlocks (some (label, text)) (Octets.ofChars cs :: rest) =
      if "-----END ".toList.isPrefixOf cs then
        match Base64.decodeChars text with
        | none => .error .invalidBase64
        | some contents => (readBlocks none rest).map (⟨label, contents⟩ :: ·)
      else readBlocks (some (label, text ++ Text.trimEnd cs)) rest := by
  rw [readBlocks, chars_ofChars]
  rfl

/-- Five hyphens that come first behind a label are found there. -/
theorem beforeHyphens?_append : ∀ {label : List Char} (rest : List Char),
    ¬ "-----".toList <:+: label ++ "----".toList →
      beforeHyphens? (label ++ ("-----".toList ++ rest)) = some label
  | [], _, _ => rfl
  | c :: label, rest, h => by
      have hinner : ¬ "-----".toList <:+: label ++ "----".toList :=
        fun hin => h (List.infix_cons_iff.mpr (Or.inr hin))
      have hfront : ¬ "-----".toList <+: c :: (label ++ ("-----".toList ++ rest)) := by
        intro hprefix
        have hlonger : c :: label ++ "----".toList <+: c :: (label ++ ("-----".toList ++ rest)) :=
          ⟨'-' :: rest, by simp⟩
        refine h (List.prefix_of_prefix_length_le hprefix hlonger ?_).isInfix
        simp
      rw [List.cons_append, beforeHyphens?, if_neg (mt List.isPrefixOf_iff_prefix.mp hfront),
        beforeHyphens?_append rest hinner]
      rfl

theorem label?_append {label : String} (h : IsLabel label) (rest : List Char) :
    label? (label.toList ++ ("-----".toList ++ rest)) = some label := by
  rw [label?, beforeHyphens?_append rest h.hyphens]
  exact congrArg some String.ofList_toList

theorem append_marks (lead label hyphens ending : List Char) :
    lead ++ (label ++ hyphens) ++ ending = lead ++ (label ++ (hyphens ++ ending)) := by
  rw [List.append_assoc, List.append_assoc]

theorem beginLine_append (label : String) (ending : List Char) :
    beginLine label ++ ending
      = "-----BEGIN ".toList ++ (label.toList ++ ("-----".toList ++ ending)) :=
  append_marks _ _ _ _

theorem endLine_append (label : String) (ending : List Char) :
    endLine label ++ ending
      = "-----END ".toList ++ (label.toList ++ ("-----".toList ++ ending)) :=
  append_marks _ _ _ _

theorem readBlocks_begin {label : String} (h : IsLabel label) (ending : List Char)
    (rest : List Octets) :
    readBlocks none (Octets.ofChars (beginLine label ++ ending) :: rest)
      = readBlocks (some (label, [])) rest := by
  refine readBlocks_opened ?_ (label?_append h ending) rest
  rw [beginLine_append]
  exact Text.stripStart?_append "-----BEGIN ".toList _

theorem LineEnd.mem_unescaped {ending : LineEnd} {c : Char} (h : c ∈ ending.unescaped) :
    c = '\r' ∨ c = '\n' := by
  cases ending with
  | missing => cases h
  | feed | escaped => exact Or.inr (List.mem_singleton.mp h)
  | returnFeed | returnEscaped =>
      exact (List.mem_cons.mp h).imp_right List.mem_singleton.mp

/-- What a line begins with does not come of its end. -/
theorem prefix_of_unescaped {line : Line} {start : List Char} (hstart : Plain start)
    (h : start <+: line.unescaped) : start <+: line.chars := by
  obtain ⟨rest, hsplit⟩ := h
  rcases List.append_eq_append_iff.mp hsplit with ⟨more, hchars, -⟩ | ⟨more, hover, hending⟩
  · exact ⟨more, hchars.symm⟩
  · cases more with
    | nil => exact ⟨[], hover ▸ by simp⟩
    | cons c more =>
        have hc : c ∈ start := hover ▸ List.mem_append_right _ List.mem_cons_self
        have hend : c ∈ line.ending.unescaped := hending ▸ List.mem_cons_self
        rcases LineEnd.mem_unescaped hend with hreturn | hfeed
        · exact absurd hreturn (hstart c hc).1
        · exact absurd hfeed (hstart c hc).2.1

theorem readBlocks_between {line : Line} (h : ¬ "-----BEGIN ".toList <+: line.chars)
    (rest : List Octets) :
    readBlocks none (Octets.ofChars line.unescaped :: rest) = readBlocks none rest :=
  readBlocks_passed (Text.stripStart?_eq_none (mt (prefix_of_unescaped plain_begin) h)) rest

/-- A line of Base64 is without white space once its end is cut off. -/
theorem trimEnd_unescaped {line : Line} (h : ∀ c ∈ line.chars, Base64.IsDigit c) :
    Text.trimEnd line.unescaped = line.chars := by
  have hends : ∀ c ∈ line.ending.unescaped.reverse, Text.isBlank c = true := by
    intro c hc
    rcases LineEnd.mem_unescaped (List.mem_reverse.mp hc) with rfl | rfl <;> decide
  have hkept : line.chars.reverse.dropWhile Text.isBlank = line.chars.reverse := by
    cases hreverse : line.chars.reverse with
    | nil => rfl
    | cons c more =>
        have hdigit := h c (List.mem_reverse.mp (hreverse ▸ List.mem_cons_self))
        have hblank : Text.isBlank c = false :=
          hdigit.of_all (p := (Text.isBlank · = false)) (by decide) (by decide)
        exact List.dropWhile_cons_of_neg (Bool.eq_false_iff.mp hblank)
  rw [Text.trimEnd, Line.unescaped, List.reverse_append, List.dropWhile_append_of_pos hends, hkept,
    List.reverse_reverse]

theorem readBlocks_body {line : Line} (h : ∀ c ∈ line.chars, Base64.IsDigit c) (label : String)
    (text : List Char) (rest : List Octets) :
    readBlocks (some (label, text)) (Octets.ofChars line.unescaped :: rest)
      = readBlocks (some (label, text ++ line.chars)) rest := by
  have hfront : ¬ "-----END ".toList.isPrefixOf line.unescaped = true := by
    intro hprefix
    have hmark := prefix_of_unescaped plain_end (List.isPrefixOf_iff_prefix.mp hprefix)
    have hhyphen := h '-' (hmark.subset (by decide))
    exact hhyphen.of_all (p := (· ≠ '-')) (by decide) (by decide) rfl
  rw [readBlocks_inside, if_neg hfront, trimEnd_unescaped h]

theorem readBlocks_end {label : String} {text : List Char} {contents : Octets}
    (h : Base64.decodeChars text = some contents) (ending : List Char) (rest : List Octets) :
    readBlocks (some (label, text)) (Octets.ofChars (endLine label ++ ending) :: rest)
      = (readBlocks none rest).map (⟨label, contents⟩ :: ·) := by
  have hfront : "-----END ".toList.isPrefixOf (endLine label ++ ending) = true :=
    List.isPrefixOf_iff_prefix.mpr ⟨_, (endLine_append label ending).symm⟩
  rw [readBlocks_inside, if_pos hfront, h]

/-- The lines of Base64 of a block are gathered. -/
theorem readBlocks_lines : ∀ {body : List Line},
    (∀ line ∈ body, ∀ c ∈ line.chars, Base64.IsDigit c) →
    ∀ (label : String) (text : List Char) (rest : List Octets),
      readBlocks (some (label, text)) ((body.map fun line => Octets.ofChars line.unescaped) ++ rest)
        = readBlocks (some (label, text ++ body.flatMap Line.chars)) rest
  | [], _, label, text, rest => by rw [List.flatMap_nil, List.append_nil]; rfl
  | line :: body, h, label, text, rest => by
      obtain ⟨hline, h⟩ := List.forall_mem_cons.mp h
      rw [List.map_cons, List.cons_append, readBlocks_body hline, readBlocks_lines h,
        List.flatMap_cons, List.append_assoc]

theorem readBlocks_skip {between : List Line}
    (h : ∀ line ∈ between, ¬ "-----BEGIN ".toList <+: line.chars) (rest : List Octets) :
    readBlocks none ((between.map fun line => Octets.ofChars line.unescaped) ++ rest)
      = readBlocks none rest := by
  induction between with
  | nil => rfl
  | cons line between ih =>
      obtain ⟨hline, h⟩ := List.forall_mem_cons.mp h
      rw [List.map_cons, List.cons_append, readBlocks_between hline, ih h]

/-- From lines that hold blocks these blocks are read. -/
theorem Holds.read {blocks : List PemBlock} {lines : List Line} (h : Holds blocks lines) :
    readBlocks none (lines.map fun line => Octets.ofChars line.unescaped) = .ok blocks := by
  induction h with
  | nil => rfl
  | @block block first last body between lines blocks hlabel hfirst hbody hlast hbetween _ ih =>
      have hcontents :
          Base64.decodeChars ([] ++ body.flatMap Line.chars) = some block.contents := by
        rw [List.nil_append, hbody, Base64.decodeChars_encodeChars]
      simp only [List.map_cons, List.map_append]
      rw [Line.unescaped, hfirst, readBlocks_begin hlabel, readBlocks_lines (isDigit_of_body hbody),
        Line.unescaped, hlast, readBlocks_end hcontents,
        readBlocks_skip fun line hline => (hbetween line hline).2, ih]
      rfl

/-- A text with blocks in it, and nothing in front of the first. -/
def Written (blocks : List PemBlock) (text : String) : Prop :=
  ∃ lines, Holds blocks lines ∧ Ended lines ∧ text.toList = lines.flatMap Line.written

/-- Blocks with their Base64 on one line each, and line ends of one kind. -/
def formatLines (ending : LineEnd) (blocks : List PemBlock) : List Line :=
  blocks.flatMap fun block =>
    [⟨beginLine block.label, ending⟩, ⟨Base64.encodeChars block.contents, ending⟩,
      ⟨endLine block.label, ending⟩]

def format (ending : LineEnd) (blocks : List PemBlock) : String :=
  String.ofList ((formatLines ending blocks).flatMap Line.written)

theorem holds_formatLines (ending : LineEnd) : ∀ {blocks : List PemBlock},
    (∀ block ∈ blocks, IsLabel block.label) → Holds blocks (formatLines ending blocks)
  | [], _ => .nil
  | block :: blocks, h => by
      obtain ⟨hlabel, h⟩ := List.forall_mem_cons.mp h
      exact @Holds.block block ⟨_, ending⟩ ⟨_, ending⟩ [⟨_, ending⟩] [] _ _ hlabel rfl
        (List.append_nil _) rfl nofun (holds_formatLines ending h)

theorem ended_of_ne_missing : ∀ {lines : List Line}, (∀ line ∈ lines, line.ending ≠ .missing) →
    Ended lines
  | [], _ => trivial
  | _ :: _, h => by
      obtain ⟨hline, h⟩ := List.forall_mem_cons.mp h
      exact ⟨fun hmissing => absurd hmissing hline, ended_of_ne_missing h⟩

/-- All blocks can be written, with line ends of any kind. -/
theorem written_format {ending : LineEnd} (hending : ending ≠ .missing) {blocks : List PemBlock}
    (h : ∀ block ∈ blocks, IsLabel block.label) : Written blocks (format ending blocks) := by
  refine ⟨_, holds_formatLines ending h, ended_of_ne_missing fun line hline => ?_,
    String.toList_ofList⟩
  obtain ⟨block, -, hin⟩ := List.mem_flatMap.mp hline
  simp only [List.mem_cons, List.not_mem_nil, or_false] at hin
  rcases hin with rfl | rfl | rfl <;> exact hending

/-- The octets that are read of a text, once its line ends are unescaped. -/
theorem Written.blocks {blocks : List PemBlock} {text : String} (h : Written blocks text) :
    Pem.blocks (Octets.ofText (String.ofList (unescapeLineEnds text.toList))) = .ok blocks := by
  obtain ⟨lines, hholds, hended, htext⟩ := h
  rw [htext, unescape_written hended hholds.unbroken, Octets.ofText_ofList, Pem.blocks,
    lines_unescaped hended hholds.unbroken, hholds.read]

theorem looksLikePem_of_mark (cs : List Char) :
    looksLikePem (Octets.ofChars ("-----BEGIN ".toList ++ cs)) = true := by
  have hstart : Octets.ofText "-----BEGIN" = [45, 45, 45, 45, 45, 66, 69, 71, 73, 78] := by decide
  have hmark : Octets.ofChars "-----BEGIN ".toList
      = [45, 45, 45, 45, 45, 66, 69, 71, 73, 78, 32] := by
    decide
  rw [looksLikePem, hstart, Octets.ofChars_append, hmark]
  rfl

theorem Written.looksLikePem {block : PemBlock} {blocks : List PemBlock} {text : String}
    (h : Written (block :: blocks) text) :
    Pem.looksLikePem (Octets.ofText (String.ofList (unescapeLineEnds text.toList))) = true := by
  obtain ⟨lines, hholds, hended, htext⟩ := h
  rw [htext, unescape_written hended hholds.unbroken, Octets.ofText_ofList]
  cases hholds with
  | block _ hfirst _ _ _ _ =>
      rw [List.flatMap_cons, Line.unescaped, hfirst, List.append_assoc (beginLine _),
        beginLine_append]
      exact looksLikePem_of_mark _

theorem Written.not_blank {blocks : List PemBlock} {text : String} (h : Written blocks text)
    (hne : blocks ≠ []) : text.toList.all Text.isBlank = false := by
  obtain ⟨lines, hholds, -, htext⟩ := h
  cases hholds with
  | nil => exact absurd rfl hne
  | block _ hfirst _ _ _ _ =>
      rw [htext, List.flatMap_cons, Line.written, hfirst, List.append_assoc (beginLine _),
        beginLine_append, List.all_append,
        show "-----BEGIN ".toList.all Text.isBlank = false by decide, Bool.false_and]

end Pem

end TrustPath
