import Mathlib.Data.List.TakeWhile
import EventScript.Toml.Document
import EventScript.Toml.Plain

/-!
# Reading TOML line by line

The reader of documents takes one expression after another off the front of the text. This file says
what it makes of the lines that a plain document consists of: a header, a pair of a bare key and a
simple value, and an empty line. Each statement is about a line with anything behind it, so that a
document is read by going through its lines.

## Words

A number, a date and a truth value are all written as one word, and the reader asks for each kind in
turn. That a decimal numeral is taken for the number it writes means, first of all, that it is taken
for nothing else: it has no mark in it that a date, a time or a fraction would need.
-/

namespace EventScript.Toml

/-! ## Decimal numerals -/

theorem digitValue?_of_isDigit {c : Char} (h : c.isDigit = true) :
    digitValue? 10 c = some (c.toNat - '0'.toNat) := by
  have hvalue : 48 ≤ c.val ∧ c.val ≤ 57 := by simpa [Char.isDigit] using h
  have hbounds : '0' ≤ c ∧ c ≤ '9' := hvalue
  have hlt : c.toNat - '0'.toNat < 10 := by
    have hle : c.toNat ≤ '9'.toNat := hbounds.2
    have hnine : '9'.toNat = 57 := rfl
    have hzero : '0'.toNat = 48 := rfl
    omega
  rw [digitValue?, Text.hexValue?, if_pos hbounds, Option.filter_some, if_pos (by simpa using hlt)]

/-- Every numeral of a positive number begins with another digit than zero. -/
theorem head?_toDigits_ne_zero {n : Nat} (h : 0 < n) : (Nat.toDigits 10 n).head? ≠ some '0' := by
  induction n using Nat.strongRecOn with
  | ind n ih =>
    rw [Nat.toDigits_eq_if (by decide)]
    split
    case isTrue hlt =>
      intro hzero
      have hdigit : n = 0 := Nat.digitChar_eq_zero.mp (Option.some.inj hzero)
      omega
    case isFalse hge =>
      have hfront := ih (n / 10) (by omega) (by omega)
      rcases hdigits : Nat.toDigits 10 (n / 10) with _ | ⟨first, others⟩
      · exact absurd hdigits Nat.toDigits_ne_nil
      · rwa [hdigits] at hfront

section numerals

variable {ds : List Char} (hds : ∀ c ∈ ds, c.isDigit = true)

include hds

theorem digits?_of_digits (value : Nat) :
    digits? 10 value true ds = some (Nat.ofDigitChars 10 ds value) := by
  induction ds generalizing value with
  | nil => rfl
  | cons c rest ih =>
    obtain ⟨hc, hrest⟩ := List.forall_mem_cons.mp hds
    have hne : c ≠ '_' := by
      rintro rfl
      exact absurd hc (by decide)
    rw [digits?, if_neg hne, digitValue?_of_isDigit hc, Nat.ofDigitChars_cons,
      Nat.mul_comm 10 value]
    exact ih hrest _

theorem notMem_of_digits (mark : Char) (hmark : mark.isDigit = false) : mark ∉ ds := by
  intro hmem
  rw [hds mark hmem] at hmark
  cases hmark

theorem date?_of_digits : date? ds = none := by
  unfold date?
  split
  · exact absurd (by simp) (notMem_of_digits hds '-' rfl)
  · rfl

theorem time?_of_digits : time? ds = none := by
  unfold time?
  split
  · exact absurd (by simp) (notMem_of_digits hds ':' rfl)
  · rfl

theorem sign_of_digits : sign ds = (false, ds) := by
  unfold sign
  split
  · exact absurd (by simp) (notMem_of_digits hds '-' rfl)
  · exact absurd (by simp) (notMem_of_digits hds '+' rfl)
  · rfl

theorem isReal_of_digits : isReal ds = false := by
  have hword : ¬(ds = ['i', 'n', 'f'] ∨ ds = ['n', 'a', 'n']) := by
    rintro (rfl | rfl)
    · exact absurd (by simp) (notMem_of_digits hds 'n' rfl)
    · exact absurd (by simp) (notMem_of_digits hds 'n' rfl)
  -- All of the numeral is taken for the whole part, and there is neither a point nor an exponent.
  have hnumeral : ∀ c ∈ ds, isNumeralChar c = true := by
    intro c hc
    rw [isNumeralChar, hds c hc, Bool.true_or]
  have hrest : ds.dropWhile isNumeralChar = [] := List.dropWhile_eq_nil_iff.mpr hnumeral
  have hnone : scientific? ds = none := by
    rw [scientific?, hrest]
    exact Option.bind_eq_none_iff.mpr fun _ _ ↦ rfl
  rw [isReal, sign_of_digits hds]
  simp only [if_neg hword, hnone]

theorem integer?_of_digits :
    integer? ds = ((decimal? ds).filter (· ≤ maxInteger)).map Int.ofNat := by
  unfold integer?
  split
  · exact absurd (by simp) (notMem_of_digits hds 'x' rfl)
  · exact absurd (by simp) (notMem_of_digits hds 'o' rfl)
  · exact absurd (by simp) (notMem_of_digits hds 'b' rfl)
  · rw [sign_of_digits hds]

theorem decimal?_of_digits (hfirst : ds.head? ≠ some '0') (hne : ds ≠ []) :
    decimal? ds = some (Nat.ofDigitChars 10 ds 0) := by
  unfold decimal?
  split
  · exact absurd rfl hfirst
  · exact absurd rfl hfirst
  · rcases ds with _ | ⟨c, rest⟩
    · exact absurd rfl hne
    · have hall := digits?_of_digits hds 0
      have hc : c ≠ '_' := by
        rintro rfl
        exact absurd (by simp) (notMem_of_digits hds '_' rfl)
      rw [digits?, if_neg hc] at hall ⊢
      exact hall

end numerals

theorem toList_numeral (n : Nat) : (toString n).toList = Nat.toDigits 10 n := Nat.toList_repr

theorem isDigit_of_mem_numeral {n : Nat} {c : Char} (h : c ∈ (toString n).toList) :
    c.isDigit = true := by
  rw [toList_numeral] at h
  exact Nat.isDigit_of_mem_toDigits (by decide) (by decide) h

/-- **A numeral in a word of its own is read as the number.** -/
theorem scalar?_numeral {n : Nat} (hpos : 0 < n) (hmax : n ≤ maxInteger) {next : Char}
    (hnext : isWordChar next = false) (rest : List Char) :
    scalar? ((toString n).toList ++ next :: rest) = some (.integer n, next :: rest) := by
  have hds : ∀ c ∈ (toString n).toList, c.isDigit = true := fun c ↦ isDigit_of_mem_numeral
  have hword : ∀ c ∈ (toString n).toList, isWordChar c = true := by
    intro c hc
    have halphanum : c.isAlphanum = true := by rw [Char.isAlphanum, hds c hc, Bool.or_true]
    simp only [isWordChar, halphanum, Bool.true_or]
  have htake : ((toString n).toList ++ next :: rest).takeWhile isWordChar =
      (toString n).toList := by
    rw [List.takeWhile_append_of_pos hword, List.takeWhile_cons_of_neg (by simp [hnext]),
      List.append_nil]
  have hdrop : ((toString n).toList ++ next :: rest).dropWhile isWordChar = next :: rest := by
    rw [List.dropWhile_append_of_pos hword, List.dropWhile_cons_of_neg (by simp [hnext])]
  have htrue : (toString n).toList ≠ ['t', 'r', 'u', 'e'] := by
    intro h
    exact notMem_of_digits hds 't' rfl (by rw [h]; decide)
  have hfalse : (toString n).toList ≠ ['f', 'a', 'l', 's', 'e'] := by
    intro h
    exact notMem_of_digits hds 'f' rfl (by rw [h]; decide)
  have hdate : isDate (toString n).toList = false := by
    rw [isDate, date?_of_digits hds]
    rfl
  have hdateTime : isDateTime (toString n).toList = false := by
    rw [isDateTime, date?_of_digits hds, time?_of_digits hds]
    rfl
  have hvalue : integer? (toString n).toList = some (n : Int) := by
    rw [integer?_of_digits hds, toList_numeral,
      decimal?_of_digits (toList_numeral n ▸ hds) (head?_toDigits_ne_zero hpos)
        Nat.toDigits_ne_nil,
      Nat.ofDigitChars_toDigits (by decide) (by decide), Option.filter_some,
      if_pos (decide_eq_true hmax)]
    rfl
  rw [scalar?, htake, hdrop]
  simp only [htrue, hfalse, hdate, hdateTime, isReal_of_digits hds, hvalue]
  rfl

/-! ## Values -/

theorem skipBlanks_cons {c : Char} (hc : isBlankChar c = false) (rest : List Char) :
    skipBlanks (c :: rest) = c :: rest := List.dropWhile_cons_of_neg (by simp [hc])

theorem skipBlanks_of_isKeyChar {c : Char} (hc : isKeyChar c = true) (rest : List Char) :
    skipBlanks (c :: rest) = c :: rest := by
  refine skipBlanks_cons ?_ rest
  have hblank : c ≠ ' ' ∧ c ≠ '\t' := by
    constructor <;> rintro rfl <;> cases hc
  simp [isBlankChar, hblank]

/-- What begins like a word is read as one. -/
theorem value?_of_isAlphanum {c : Char} (hc : c.isAlphanum = true) (nesting : Nat)
    (rest : List Char) : value? nesting (c :: rest) = scalar? (c :: rest) := by
  have hmark : ∀ (mark : Char) (tail : List Char), mark.isAlphanum = false →
      c :: rest = mark :: tail → False := by
    rintro mark tail hmark heq
    rw [← List.head_eq_of_cons_eq heq, hc] at hmark
    cases hmark
  -- The last of the alternatives applies, because the others begin with a mark.
  cases nesting with
  | zero =>
    rw [value?]
    all_goals exact fun tail ↦ hmark _ tail rfl
  | succ nesting =>
    rw [value?]
    all_goals exact fun tail ↦ hmark _ tail rfl

/-- A spelling on one line, with blanks before it, is read as the value. -/
def Spells (spelling : String) (value : Value) : Prop :=
  ∀ (nesting : Nat) (rest : List Char),
    value? nesting (skipBlanks (spelling.toList ++ '\n' :: rest)) = some (value, '\n' :: rest)

theorem spells_boolean (b : Bool) : Spells (toString b) (.boolean b) := by
  intro nesting rest
  cases b <;> exact (value?_of_isAlphanum rfl nesting _).trans rfl

theorem spells_zero : Spells "0" (.integer 0) :=
  fun nesting _ ↦ (value?_of_isAlphanum rfl nesting _).trans rfl

theorem spells_numeral {n : Nat} (hmax : n ≤ maxInteger) : Spells (toString n) (.integer n) := by
  rcases Nat.eq_zero_or_pos n with rfl | hpos
  · exact spells_zero
  intro nesting rest
  rw [← scalar?_numeral hpos hmax rfl rest]
  rcases hnumeral : (toString n).toList with _ | ⟨c, others⟩
  · rw [toList_numeral] at hnumeral
    exact absurd hnumeral Nat.toDigits_ne_nil
  · have hc : c.isDigit = true :=
      isDigit_of_mem_numeral (by rw [hnumeral]; exact List.mem_cons_self)
    have halphanum : c.isAlphanum = true := by rw [Char.isAlphanum, hc, Bool.or_true]
    rw [List.cons_append,
      skipBlanks_of_isKeyChar (by rw [isKeyChar, halphanum, Bool.true_or, Bool.true_or])]
    exact value?_of_isAlphanum halphanum nesting _

/-- A character that stands for itself between double quotes. -/
def isPlainChar (c : Char) : Bool := isTextChar c && c != '"' && c != '\\'

theorem basic?_of_plain {content : List Char} (h : ∀ c ∈ content, isPlainChar c = true)
    (rest : List Char) : basic? (content ++ '"' :: rest) = some (content, rest) := by
  induction content with
  | nil => rfl
  | cons c others ih =>
    obtain ⟨hc, hothers⟩ := List.forall_mem_cons.mp h
    simp only [isPlainChar, Bool.and_eq_true, bne_iff_ne, ne_eq] at hc
    obtain ⟨⟨htext, hquote⟩, hescape⟩ := hc
    have hplain : basic? (c :: (others ++ '"' :: rest)) =
        if isTextChar c ∧ c ≠ '\\' then (basic? (others ++ '"' :: rest)).map (prepend c)
        else none := by
      rw [basic?.eq_def]
      split <;> simp_all
    rw [List.cons_append, hplain, if_pos ⟨htext, hescape⟩, ih hothers]
    rfl

theorem spells_quoted {content : String} (h : ∀ c ∈ content.toList, isPlainChar c = true) :
    Spells ("\"" ++ content ++ "\"") (.text content) := by
  intro nesting rest
  have htext : ("\"" ++ content ++ "\"").toList ++ '\n' :: rest =
      '"' :: (content.toList ++ '"' :: '\n' :: rest) := by simp
  have hquotation : quotation? ('"' :: (content.toList ++ '"' :: '\n' :: rest)) =
      some (content, '\n' :: rest) := by
    rw [quotation?, basic?_of_plain h]
    · simp
    · -- Three quotes in a row would be the beginning of a text over several lines.
      intro tail heq
      rcases hcontent : content.toList with _ | ⟨c, others⟩
      · rw [hcontent] at heq
        cases heq
      · have hc := h c (by simp [hcontent])
        rw [hcontent] at heq
        rw [List.head_eq_of_cons_eq heq] at hc
        cases hc
  have hvalue : value? nesting ('"' :: (content.toList ++ '"' :: '\n' :: rest)) =
      (quotation? ('"' :: (content.toList ++ '"' :: '\n' :: rest))).map
        fun read ↦ (.text read.1, read.2) := by
    cases nesting <;> rw [value?]
  rw [htext, skipBlanks_cons rfl, hvalue, hquotation]
  rfl

/-- A value that is spelled without escapes and is in the range of its kind. -/
def Atom.IsPlain : Atom → Prop
  | boolean _ => True
  | text s => ∀ c ∈ s.toList, isPlainChar c = true
  | number n => n ≤ maxInteger

/-- **A plain value is read from its spelling.** -/
theorem spells_atom {a : Atom} (h : a.IsPlain) : Spells a.spelling a.value := by
  cases a with
  | boolean b => exact spells_boolean b
  | text s => exact spells_quoted h
  | number n => exact spells_numeral h

/-! ## Keys -/

/-- A key that can be written without quotes. -/
structure IsBareKey (name : List Char) : Prop where
  /-- There is something of it. -/
  ne_nil : name ≠ []
  /-- It consists of letters, digits, hyphens and underscores. -/
  isKeyChar : ∀ c ∈ name, isKeyChar c = true

namespace IsBareKey

theorem of_all {name : List Char} (hne : name ≠ []) (hall : name.all Toml.isKeyChar = true) :
    IsBareKey name := ⟨hne, List.all_eq_true.mp hall⟩

variable {name : List Char} (hname : IsBareKey name)

include hname

theorem ne_mark (mark : Char) (hmark : Toml.isKeyChar mark = false) {rest tail : List Char}
    (heq : name ++ rest = mark :: tail) : False := by
  rcases name with _ | ⟨c, others⟩
  · exact hname.ne_nil rfl
  · have hc := hname.isKeyChar c List.mem_cons_self
    rw [List.head_eq_of_cons_eq heq, hmark] at hc
    cases hc

theorem skipBlanks (rest : List Char) : Toml.skipBlanks (name ++ rest) = name ++ rest := by
  rcases name with _ | ⟨c, others⟩
  · exact absurd rfl hname.ne_nil
  · exact skipBlanks_of_isKeyChar (hname.isKeyChar c List.mem_cons_self) _

theorem keyPart? {next : Char} (hnext : Toml.isKeyChar next = false) (rest : List Char) :
    Toml.keyPart? (name ++ next :: rest) = some (String.ofList name, next :: rest) := by
  have htake : (name ++ next :: rest).takeWhile Toml.isKeyChar = name := by
    rw [List.takeWhile_append_of_pos hname.isKeyChar,
      List.takeWhile_cons_of_neg (by simp [hnext]), List.append_nil]
  have hdrop : (name ++ next :: rest).dropWhile Toml.isKeyChar = next :: rest := by
    rw [List.dropWhile_append_of_pos hname.isKeyChar, List.dropWhile_cons_of_neg (by simp [hnext])]
  rw [Toml.keyPart?]
  · rw [htake, hdrop]
    rcases name with _ | ⟨c, others⟩
    · exact absurd rfl hname.ne_nil
    · rfl
  · exact fun tail ↦ hname.ne_mark _ rfl
  · exact fun tail ↦ hname.ne_mark _ rfl

/-- **A bare key is read as a key of one part**, with the blanks behind it. -/
theorem key? {next stop : Char} {rest more : List Char} (hnext : Toml.isKeyChar next = false)
    (hmore : Toml.skipBlanks (next :: rest) = stop :: more) (hstop : stop ≠ '.') (limit : Nat) :
    Toml.key? (limit + 1) (name ++ next :: rest) = some ([String.ofList name], stop :: more) := by
  rw [Toml.key?, hname.skipBlanks, hname.keyPart? hnext]
  simp only [Option.bind_eq_bind, Option.bind_some, hmore]
  split
  · rename_i heq
    exact absurd (List.head_eq_of_cons_eq heq) hstop
  · rfl

end IsBareKey

/-! ## Lines -/

theorem finishLine?_newline (rest : List Char) : finishLine? ('\n' :: rest) = some rest := rfl

/-- The reader takes this line off the front of any text, with the given change of the draft. -/
def Reads (d : Draft) (line : String) (d' : Draft) : Prop :=
  ∀ rest : List Char, expression? d (line.toList ++ '\n' :: rest) = some (d', rest)

theorem reads_empty (d : Draft) : Reads d "" d := fun _ ↦ rfl

theorem reads_header {name : String} (hname : IsBareKey name.toList) {d d' : Draft}
    (hopen : d.openWith? Entries.openTable? [name] = some d') :
    Reads d ("[" ++ name ++ "]") d' := by
  intro rest
  have htext : ("[" ++ name ++ "]").toList ++ '\n' :: rest =
      '[' :: (name.toList ++ ']' :: '\n' :: rest) := by simp
  have hkey : key? maxNesting (name.toList ++ ']' :: '\n' :: rest) =
      some ([name], ']' :: '\n' :: rest) := by
    rw [maxNesting, hname.key? rfl rfl (by decide), String.ofList_toList]
  have hheader : expression? d ('[' :: (name.toList ++ ']' :: '\n' :: rest)) =
      header? d ('[' :: (name.toList ++ ']' :: '\n' :: rest)) := rfl
  rw [htext, hheader, header?]
  · simp only [hkey, hopen, Option.bind_eq_bind, Option.bind_some, finishLine?_newline]
    rfl
  · rintro tail heq
    exact hname.ne_mark '[' rfl heq

theorem reads_pair {name spelling : String} {value : Value} (hname : IsBareKey name.toList)
    (hvalue : Spells spelling value) {d d' : Draft} (hadd : d.add? [name] value = some d') :
    Reads d (name ++ " = " ++ spelling) d' := by
  intro rest
  have htext : (name ++ " = " ++ spelling).toList ++ '\n' :: rest =
      name.toList ++ ' ' :: '=' :: ' ' :: (spelling.toList ++ '\n' :: rest) := by simp
  have hkey : key? maxNesting
      (name.toList ++ ' ' :: '=' :: ' ' :: (spelling.toList ++ '\n' :: rest)) =
      some ([name], '=' :: ' ' :: (spelling.toList ++ '\n' :: rest)) := by
    rw [maxNesting, hname.key? rfl rfl (by decide), String.ofList_toList]
  have hskip : skipBlanks (' ' :: (spelling.toList ++ '\n' :: rest)) =
      skipBlanks (spelling.toList ++ '\n' :: rest) := rfl
  have hpair : pair (value? maxNesting)
      (name.toList ++ ' ' :: '=' :: ' ' :: (spelling.toList ++ '\n' :: rest)) =
      some (([name], value), '\n' :: rest) := by
    simp only [pair, hkey, hskip, hvalue _ rest, Option.bind_eq_bind, Option.bind_some]
    rfl
  rw [htext, expression?, hname.skipBlanks]
  -- The line is not empty, and what it begins with is neither a bracket nor a comment.
  split
  case h_2 heq => exact absurd heq (by simp)
  case h_6 =>
    simp only [hpair, hadd, Option.bind_eq_bind, Option.bind_some, finishLine?_newline]
    rfl
  all_goals exact (hname.ne_mark _ rfl ‹_›).elim

/-! ## Documents -/

theorem toList_document_cons (line : String) (lines : List String) :
    (document (line :: lines)).toList = line.toList ++ '\n' :: (document lines).toList := by
  simp [document, String.toList_join]

/-- The reader goes through these lines one after the other. -/
inductive ReadsAll : Draft → List String → Draft → Prop
  | nil (d : Draft) : ReadsAll d [] d
  | cons {d d' d'' : Draft} {line : String} {lines : List String} (first : Reads d line d')
      (others : ReadsAll d' lines d'') : ReadsAll d (line :: lines) d''

namespace ReadsAll

variable {d d' d'' : Draft} {lines more : List String}

theorem append (h : ReadsAll d lines d') (h' : ReadsAll d' more d'') :
    ReadsAll d (lines ++ more) d'' := by
  induction h with
  | nil => exact h'
  | cons first _ ih => exact .cons first (ih h')

/-- Every line takes its end off the text, so a reader that may go on for as many lines as there
are characters comes to the end of the document. -/
theorem expressions? (h : ReadsAll d lines d') {fuel : Nat}
    (hfuel : (document lines).toList.length ≤ fuel) :
    Toml.expressions? fuel d (document lines).toList = some d' := by
  induction h generalizing fuel with
  | nil => cases fuel <;> rfl
  | @cons d d' d'' line lines first others ih =>
    rw [toList_document_cons] at hfuel ⊢
    rw [List.length_append, List.length_cons] at hfuel
    obtain ⟨fuel, rfl⟩ : ∃ k, fuel = k + 1 := ⟨fuel - 1, by omega⟩
    rw [Toml.expressions?, first]
    · exact ih (by omega)
    · simp

/-- **A document whose lines are read one after the other is read as a whole.** -/
theorem parse? (h : ReadsAll {} lines d) (hmark : (document lines).toList.head? ≠ some '\ufeff') :
    Toml.parse? (document lines) = some d.root := by
  simp only [Toml.parse?]
  split
  case h_1 rest heq => exact absurd (by rw [heq]; rfl) hmark
  case h_2 => rw [h.expressions? le_rfl, Option.map_some]

end ReadsAll

end EventScript.Toml
