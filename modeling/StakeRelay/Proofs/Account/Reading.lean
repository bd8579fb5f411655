/-
  StakeRelay.Proofs.Account.Reading — which texts are addresses.

  White space around a text and one `0x` before its digits are dropped. What is left has to be
  forty hexadecimal digits, and the address is the bytes that they spell. A second `0x`, an
  upper-case one, white space behind the mark and characters beyond ASCII are no digits, so
  each of them is refused.

  Main statements:
    * `Address.parse_ok_iff` — which text is read as which address;
    * `Address.exists_parse_iff` — which texts are read at all;
    * `address_text_has_a_grammar` — both, and that written addresses are read again.
-/

import StakeRelay.Account.Reading
import StakeRelay.Proofs.Text.Blank
import StakeRelay.Proofs.Text.Hex

namespace StakeRelay

/-! ## §1. The mark -/

theorem Hex.not_isBlank_of_isDigit {c : Char} (digit : IsDigit c) : Text.isBlank c = false := by
  have range := isDigit_iff.mp digit
  unfold Text.isBlank
  simp only [Bool.or_eq_false_iff, Bool.and_eq_false_iff, decide_eq_false_iff_not, beq_eq_false_iff_ne]
  omega

/-- The mark before the digits, or none. -/
def IsHexMark (mark : List Char) : Prop := mark = [] ∨ mark = ['0', 'x']

/-- Digits hold no mark themselves, since `x` is no digit, so just the mark ahead of them is
    dropped. -/
theorem dropHexMark_append {mark digits : List Char} (known : IsHexMark mark)
    (all : ∀ c ∈ digits, Hex.IsDigit c) : dropHexMark (mark ++ digits) = digits := by
  rcases known with rfl | rfl
  · rw [List.nil_append]
    unfold dropHexMark
    split
    · next rest =>
      have digit := all 'x' (List.mem_cons_of_mem _ List.mem_cons_self)
      exact absurd (Hex.isDigit_iff.mp digit) (by decide)
    · rfl
  · rfl

/-- What `dropHexMark` drops is a mark. -/
theorem exists_dropHexMark (cs : List Char) : ∃ mark, IsHexMark mark ∧ cs = mark ++ dropHexMark cs := by
  unfold dropHexMark
  split
  · exact ⟨['0', 'x'], .inr rfl, rfl⟩
  · exact ⟨[], .inl rfl, rfl⟩

/-! ## §2. Digits -/

namespace Address

variable {s : String} {a : Address}

/-- The part of a text that has to be the digits of an address. -/
def digitsOf (s : String) : List Char := dropHexMark (Text.trimChars s.toList)

/-- The digits, of either case, are those in the text of the address. -/
def SpelledBy (a : Address) (digits : List Char) : Prop :=
  '0' :: 'x' :: digits.map Ascii.lower = a.text.toList

/-- The text of an address is `0x` and the digits of its bytes. -/
theorem toList_text (a : Address) : a.text.toList = '0' :: 'x' :: Hex.encodeChars a.bytes := by
  unfold text Hex.encode0x Hex.encode
  rw [String.toList_append, String.toList_ofList, String.toList_ofList]
  rfl

theorem bytes_inj {a b : Address} : a.bytes = b.bytes ↔ a = b := by
  cases a
  cases b
  simp only [mk.injEq]

/-- Digits spell `a` just if they are those of its bytes once they are in lower case. -/
theorem spelledBy_iff {digits : List Char} :
    a.SpelledBy digits ↔ digits.map Ascii.lower = Hex.encodeChars a.bytes := by
  unfold SpelledBy
  rw [toList_text, List.cons.injEq, List.cons.injEq]
  simp only [true_and]

/-- Digits spell some address (`SpelledBy`) just if there are forty of them. -/
theorem exists_spelledBy_iff {digits : List Char} :
    (∃ a : Address, a.SpelledBy digits) ↔ digits.length = 40 ∧ ∀ c ∈ digits, Hex.IsDigit c := by
  rw [← Hex.exists_digits_iff (n := 20)]
  constructor
  · rintro ⟨a, spelled⟩
    exact ⟨a.bytes, a.length_eq, spelledBy_iff.mp spelled⟩
  · rintro ⟨bs, size, spelled⟩
    exact ⟨⟨bs, size⟩, spelledBy_iff.mpr spelled⟩

theorem isDigit_of_spelledBy {digits : List Char} (spelled : a.SpelledBy digits) :
    ∀ c ∈ digits, Hex.IsDigit c := (exists_spelledBy_iff.mp ⟨a, spelled⟩).2

/-- The digits in the text of an address, `Hex.encodeChars a.bytes`, spell it. -/
theorem spelledBy_text (a : Address) : a.SpelledBy (Hex.encodeChars a.bytes) := by
  rw [spelledBy_iff]
  exact Hex.map_lower_encodeChars a.bytes

/-! ## §3. Texts -/

theorem ofBytes?_eq_some_iff {bs : Bytes} : ofBytes? bs = some a ↔ bs = a.bytes := by
  unfold ofBytes?
  split
  · next size => rw [Option.some.injEq, ← bytes_inj]
  · next other =>
    refine iff_of_false (Option.some_ne_none a).symm fun same => ?_
    rw [same] at other
    exact other a.length_eq

theorem parseFault_ok_iff : parseFault s = .ok a ↔ a.SpelledBy (digitsOf s) := by
  rw [spelledBy_iff, ← Hex.decode_ok_iff]
  unfold parseFault digitsOf
  cases Hex.decode (Utf8.encodeChars (dropHexMark (Text.trimChars s.toList))) with
  | error fault => exact iff_of_false nofun nofun
  | ok bs =>
    rw [Except.ok.injEq, ← ofBytes?_eq_some_iff]
    cases read : ofBytes? bs with
    | none => simp only [read, reduceCtorEq]
    | some b => simp only [read, Except.ok.injEq, Option.some.injEq]

/-- `parse s` is the address `a` just if the digits of `s` spell it. -/
theorem parse_ok_iff : parse s = .ok a ↔ a.SpelledBy (digitsOf s) := by
  rw [← parseFault_ok_iff]
  unfold parse
  cases parseFault s with
  | ok b =>
    show Except.ok b = Except.ok a ↔ _
    rw [Except.ok.injEq, Except.ok.injEq]
  | error fault => exact iff_of_false nofun nofun

/-- And `parse` answers some address just if there are forty digits among `digitsOf s`. -/
theorem exists_parse_iff :
    (∃ a, parse s = .ok a) ↔ (digitsOf s).length = 40 ∧ ∀ c ∈ digitsOf s, Hex.IsDigit c := by
  simp only [parse_ok_iff, exists_spelledBy_iff]

/-- A text that is no address is a fault of decoding, `.error (.decode fault)`. -/
theorem parse_cases (s : String) : (∃ a, parse s = .ok a) ∨ ∃ fault, parse s = .error (.decode fault) := by
  unfold parse
  cases parseFault s with
  | ok a => exact .inl ⟨a, rfl⟩
  | error fault => exact .inr ⟨fault, rfl⟩

/-- `digitsOf` drops white space around the digits and a mark before them. -/
theorem digitsOf_eq {before mark digits after : List Char}
    (whole : s.toList = before ++ mark ++ digits ++ after) (first : Text.AllBlank before)
    (last : Text.AllBlank after) (known : IsHexMark mark) (all : ∀ c ∈ digits, Hex.IsDigit c) :
    digitsOf s = digits := by
  have solid : ∀ c ∈ mark ++ digits, Text.isBlank c = false := by
    intro c member
    rcases List.mem_append.mp member with member | member
    · rcases known with rfl | rfl
      · cases member
      · rcases List.mem_cons.mp member with rfl | letter
        · rfl
        · rw [List.mem_singleton.mp letter]
          rfl
    · exact Hex.not_isBlank_of_isDigit (all c member)
  unfold digitsOf
  rw [whole, List.append_assoc before, Text.trimChars_blank_append first last solid,
    dropHexMark_append known all]

/-- And `digitsOf` drops nothing but white space at either end and one `0x` (`IsHexMark`). -/
theorem exists_digitsOf (s : String) : ∃ before mark after,
    s.toList = before ++ mark ++ digitsOf s ++ after ∧ Text.AllBlank before ∧ Text.AllBlank after ∧
      IsHexMark mark := by
  obtain ⟨before, after, whole, first, last⟩ := Text.exists_trimChars s.toList
  obtain ⟨mark, known, split⟩ := exists_dropHexMark (Text.trimChars s.toList)
  refine ⟨before, mark, after, ?_, first, last, known⟩
  unfold digitsOf
  rw [List.append_assoc before, ← split]
  exact whole

end Address

open Address in
/-- A text is an address just if it is forty hexadecimal digits, once the white space at either
    end and one `0x` before the digits are dropped (`digitsOf`); the values of the digits are
    the halves of the bytes (`Hex.halves`). Any other text is a fault of decoding. In other
    words, the text of an address in any mix of cases, with or without the mark and with any
    white space around it, is read by `parse` as that address, and there is no other text that
    is. -/
theorem address_text_has_a_grammar :
    (∀ s, ((∃ a, parse s = .ok a) ↔
        (digitsOf s).length = 40 ∧ ∀ c ∈ digitsOf s, Hex.IsDigit c) ∧
      (∀ a, parse s = .ok a ↔
        (digitsOf s).map Ascii.hexValue? = (Hex.halves a.bytes).map some) ∧
      (¬ ((digitsOf s).length = 40 ∧ ∀ c ∈ digitsOf s, Hex.IsDigit c) →
        ∃ fault, parse s = .error (.decode fault))) ∧
    (∀ s a, parse s = .ok a ↔ ∃ before mark digits after,
      s.toList = before ++ mark ++ digits ++ after ∧ Text.AllBlank before ∧ Text.AllBlank after ∧
        IsHexMark mark ∧ a.SpelledBy digits) ∧
    ∀ a, parse a.text = .ok a := by
  have spelled_iff (s : String) (a : Address) : parse s = .ok a ↔
      ∃ before mark digits after, s.toList = before ++ mark ++ digits ++ after ∧
        Text.AllBlank before ∧ Text.AllBlank after ∧ IsHexMark mark ∧ a.SpelledBy digits := by
    constructor
    · intro read
      obtain ⟨before, mark, after, whole, first, last, known⟩ := exists_digitsOf s
      exact ⟨before, mark, _, after, whole, first, last, known, parse_ok_iff.mp read⟩
    · rintro ⟨before, mark, digits, after, whole, first, last, known, spelled⟩
      rw [parse_ok_iff, digitsOf_eq whole first last known (isDigit_of_spelledBy spelled)]
      exact spelled
  refine ⟨fun s => ⟨exists_parse_iff, fun a => ?_, fun other => ?_⟩, spelled_iff, fun a => ?_⟩
  · rw [parse_ok_iff, spelledBy_iff, Hex.encodeChars_eq,
      Hex.map_hexValue?_iff fun _ => Hex.lt_of_mem_halves]
  · rcases parse_cases s with read | fault
    · exact absurd (exists_parse_iff.mp read) other
    · exact fault
  · refine (spelled_iff _ a).mpr ⟨[], ['0', 'x'], _, [], ?_, nofun, nofun, .inr rfl, spelledBy_text a⟩
    rw [toList_text, List.append_nil]
    rfl

namespace Address

/-- An address of which digits and letters are mixed. -/
def mixed : Address :=
  ⟨[0x5a, 0xae, 0xb6, 0x05, 0x3f, 0x3e, 0x94, 0xc9, 0xb9, 0xa0,
    0x9f, 0x33, 0x66, 0x94, 0x35, 0xe7, 0xef, 0x1b, 0xea, 0xed], rfl⟩

end Address

open Address in
/-- Cases may be mixed and white space beyond ASCII may stand around. A second `0x` is no
    digits, although the length would do. -/
theorem padded_address_is_read :
    parse "\u3000 0x5aAeb6053F3E94C9b9A09f33669435E7Ef1BeAed\n" = .ok mixed ∧
      parse "5AAEB6053F3E94C9B9A09F33669435E7EF1BEAED" = .ok mixed ∧
      ∃ fault, parse "0x0x5aaeb6053f3e94c9b9a09f33669435e7ef1bea" = .error (.decode fault) := by
  obtain ⟨reading, spelling, -⟩ := address_text_has_a_grammar
  refine ⟨?_, ?_, ?_⟩
  · refine (spelling _ _).mpr ⟨['\u3000', ' '], ['0', 'x'],
      "5aAeb6053F3E94C9b9A09f33669435E7Ef1BeAed".toList, ['\n'], by decide +kernel,
      by decide, by decide, .inr rfl, ?_⟩
    show _ = _
    decide +kernel
  · refine (spelling _ _).mpr ⟨[], [], "5AAEB6053F3E94C9B9A09F33669435E7EF1BEAED".toList, [],
      by decide +kernel, nofun, nofun, .inl rfl, ?_⟩
    show _ = _
    decide +kernel
  · refine (reading _).2.2 fun digits => ?_
    have marked : 'x' ∈ digitsOf "0x0x5aaeb6053f3e94c9b9a09f33669435e7ef1bea" := by decide +kernel
    exact absurd (Hex.isDigit_iff.mp (digits.2 'x' marked)) (by decide)

end StakeRelay
