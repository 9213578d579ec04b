/-
ArgTaint.Proofs.Text.Quoted — a quoted text reads back.

A text is written symbol by symbol, and each symbol is written in one of two
ways (`IsWritten`): as itself, or as a backslash, a letter and hexadecimal
digits. What is written is therefore printable, a bare quote never stands in it,
and reading takes it apart into the same symbols, whatever follows.

  §1 Digits     — hexadecimal numbers read back.
  §2 Symbols    — the two ways of writing one.
  §3 Quotes     — the backslashes before a double quote.
  §4 Reading    — a written text stands for the bytes that it was written for.
-/
import ArgTaint.Proofs.Text.Utf8
import ArgTaint.Text.Quoted

namespace ArgTaint.Text

/-! ## §1 Digits -/

/-- The last digit of a number is read last. -/
theorem readHex?_succ (width acc : Nat) (cs : List Char) :
    readHex? (width + 1) acc cs =
      (readHex? width acc cs).bind fun (n, rest) => readHex? 1 n rest := by
  induction width generalizing acc cs with
  | zero => rfl
  | succ width ih =>
    cases cs with
    | nil => rfl
    | cons c cs =>
      rw [readHex?, readHex?]
      cases hexValue? c with
      | none => rfl
      | some v => exact ih (acc * 16 + v) cs

/-- The digits of a number, in the given case, read back as its last digits. -/
theorem readHex?_map_hexDigits {f : Char → Char}
    (hf : ∀ d < 16, hexValue? (f (hexDigit d)) = some d) (width acc n : Nat)
    (rest : List Char) :
    readHex? width acc ((hexDigits width n).map f ++ rest) =
      some (acc * 16 ^ width + n % 16 ^ width, rest) := by
  induction width generalizing n rest with
  | zero => simp [hexDigits, readHex?, Nat.mod_one]
  | succ width ih =>
    have hlast := hf (n % 16) (Nat.mod_lt _ (by decide))
    have hsplit : n % 16 ^ (width + 1) = n / 16 % 16 ^ width * 16 + n % 16 := by
      rw [Nat.pow_succ', Nat.mod_mul]
      omega
    rw [readHex?_succ, hexDigits, List.map_append, List.append_assoc, ih, hsplit, Nat.pow_succ]
    simp only [Option.bind_some, List.map_cons, List.map_nil, List.cons_append, List.nil_append,
      readHex?, hlast]
    congr 2
    ring

theorem hexValue?_hexDigit : ∀ d < 16, hexValue? (hexDigit d) = some d := by decide

/-- A number with at most `width` digits reads back. -/
theorem readHex?_hexDigits (width : Nat) {n : Nat} (h : n < 16 ^ width) (rest : List Char) :
    readHex? width 0 (hexDigits width n ++ rest) = some (n, rest) := by
  have := readHex?_map_hexDigits (f := id) hexValue?_hexDigit width 0 n rest
  rwa [List.map_id, Nat.zero_mul, Nat.zero_add, Nat.mod_eq_of_lt h] at this

theorem length_hexDigits (width n : Nat) : (hexDigits width n).length = width := by
  induction width generalizing n with
  | zero => rfl
  | succ width ih => simp [hexDigits, ih]

/-! ## §2 Symbols -/

/-- A character that shows as it is and that means itself. -/
structure IsPlain (c : Char) : Prop where
  printable : isPrintable c = true
  ne_quote : c ≠ '"'
  ne_backslash : c ≠ '\\'

theorem isPlain_hexDigit : ∀ d < 16, IsPlain (hexDigit d) := by
  have h : ∀ d < 16, isPrintable (hexDigit d) = true ∧ hexDigit d ≠ '"' ∧
      hexDigit d ≠ '\\' := by
    decide
  exact fun d hd => ⟨(h d hd).1, (h d hd).2.1, (h d hd).2.2⟩

theorem isPlain_of_mem_hexDigits {width n : Nat} {c : Char} (h : c ∈ hexDigits width n) :
    IsPlain c := by
  induction width generalizing n with
  | zero => cases h
  | succ width ih =>
    rcases List.mem_append.mp h with h | h
    · exact ih h
    · rw [List.mem_singleton.mp h]
      exact isPlain_hexDigit _ (Nat.mod_lt _ (by decide))

/-- The two ways of writing a symbol: a character as itself, or a backslash, a
character and digits. -/
inductive IsWritten : List Char → Prop
  | plain {c : Char} (hc : IsPlain c) : IsWritten [c]
  | escape {c : Char} {digits : List Char} (hc : isPrintable c = true)
      (hdigits : ∀ d ∈ digits, IsPlain d) : IsWritten ('\\' :: c :: digits)

theorem isPrintable_of_shortEscape? {c letter : Char} (h : shortEscape? c = some letter) :
    isPrintable letter = true := by
  unfold shortEscape? at h
  split at h <;> cases h <;> decide

theorem isWritten_hex {letter : Char} (hletter : isPrintable letter = true) (width n : Nat) :
    IsWritten ('\\' :: letter :: hexDigits width n) :=
  .escape hletter fun _ => isPlain_of_mem_hexDigits

/-- Every symbol is written in one of the two ways. -/
theorem isWritten_escapeSymbol (s : Symbol) : IsWritten (escapeSymbol s) := by
  cases s with
  | stray b => exact isWritten_hex (by decide) 2 b.toNat
  | char c =>
    simp only [escapeSymbol, escapeChar]
    split_ifs with hself hprintable h₂ h₄
    · refine .escape ?_ (by simp)
      rcases hself with rfl | rfl <;> decide
    · exact .plain ⟨hprintable, fun h => hself (Or.inl h), fun h => hself (Or.inr h)⟩
    all_goals
      split
      · next h => exact .escape (isPrintable_of_shortEscape? h) (by simp)
      · exact isWritten_hex (by decide) _ _

theorem escape_cons (s : Symbol) (t : Text) : escape (s :: t) = escapeSymbol s ++ escape t :=
  rfl

theorem escape_append (t u : Text) : escape (t ++ u) = escape t ++ escape u :=
  List.flatMap_append

theorem escape_singleton (s : Symbol) : escape [s] = escapeSymbol s := List.append_nil _

/-- What is written is printable. -/
theorem IsWritten.isPrintable {written : List Char} (h : IsWritten written) :
    ∀ c ∈ written, isPrintable c = true := by
  cases h with
  | plain hc => simpa using hc.printable
  | escape hc hdigits =>
    intro d hd
    rcases List.mem_cons.mp hd with rfl | hd
    · decide
    · rcases List.mem_cons.mp hd with rfl | hd
      · exact hc
      · exact (hdigits d hd).printable

theorem IsWritten.length_pos {written : List Char} (h : IsWritten written) :
    0 < written.length := by
  cases h <;> simp

/-- An escaped text is printable. -/
theorem isPrintable_of_mem_escape {t : Text} {c : Char} (h : c ∈ escape t) :
    isPrintable c = true := by
  obtain ⟨s, -, hc⟩ := List.mem_flatMap.mp h
  exact (isWritten_escapeSymbol s).isPrintable c hc

/-! ## §3 Quotes -/

def trailingBackslashes (cs : List Char) : Nat := (cs.rtakeWhile (· = '\\')).length

theorem trailingBackslashes_concat_backslash (cs : List Char) :
    trailingBackslashes (cs ++ ['\\']) = trailingBackslashes cs + 1 := by
  simp [trailingBackslashes]

theorem trailingBackslashes_concat {c : Char} (h : c ≠ '\\') (cs : List Char) :
    trailingBackslashes (cs ++ [c]) = 0 := by
  simp [trailingBackslashes, h]

/-- A written symbol leaves the number of backslashes at the end even. -/
theorem IsWritten.even_trailingBackslashes {written : List Char} (h : IsWritten written)
    {cs : List Char} (hcs : Even (trailingBackslashes cs)) :
    Even (trailingBackslashes (cs ++ written)) := by
  cases h with
  | plain hc => simp [trailingBackslashes_concat hc.ne_backslash]
  | @escape c digits _ hdigits =>
    rcases List.eq_nil_or_concat digits with rfl | ⟨digits, d, rfl⟩
    · rw [← List.singleton_append, ← List.append_assoc]
      by_cases hc : c = '\\'
      · subst hc
        rw [trailingBackslashes_concat_backslash, trailingBackslashes_concat_backslash]
        exact hcs.add even_two
      · rw [trailingBackslashes_concat hc]
        exact Even.zero
    · have hd : d ≠ '\\' := (hdigits d (by simp)).ne_backslash
      have hsplit :
          cs ++ '\\' :: c :: digits.concat d = (cs ++ '\\' :: c :: digits) ++ [d] := by
        simp
      rw [hsplit, trailingBackslashes_concat hd]
      exact Even.zero

/-- A quote after an escaped text is not escaped by it. -/
theorem even_trailingBackslashes_escape (t : Text) : Even (trailingBackslashes (escape t)) := by
  induction t using List.reverseRecOn with
  | nil => exact Even.zero
  | append_singleton t s ih =>
    rw [escape_append, escape_singleton]
    exact (isWritten_escapeSymbol s).even_trailingBackslashes ih

/-- A quote in a written symbol is right behind the backslash that starts it. -/
theorem IsWritten.eq_of_quote {written before after : List Char} (h : IsWritten written)
    (heq : written = before ++ '"' :: after) : before = ['\\'] := by
  cases h with
  | @plain c hc =>
    have hmem : '"' ∈ [c] := by simp [heq]
    exact absurd (List.mem_singleton.mp hmem).symm hc.ne_quote
  | escape hc hdigits =>
    match before with
    | [] => cases heq
    | [_] => cases heq; rfl
    | _ :: _ :: before =>
      injection heq with _ heq
      injection heq with _ heq
      exact absurd rfl (hdigits '"' (heq ▸ by simp)).ne_quote

/-- A quote in a written text stands behind a backslash that starts a symbol. -/
theorem exists_eq_escape_of_quote {t : Text} {before after : List Char}
    (h : escape t = before ++ '"' :: after) : ∃ u, before = escape u ++ ['\\'] := by
  induction t generalizing before with
  | nil => simp [escape] at h
  | cons s t ih =>
    rw [escape_cons] at h
    rcases List.append_eq_append_iff.mp h with ⟨before', rfl, hrest⟩ | ⟨rest, hs, hrest⟩
    · obtain ⟨u, rfl⟩ := ih hrest
      exact ⟨s :: u, by rw [escape_cons, List.append_assoc]⟩
    · cases rest with
      | nil =>
        obtain ⟨u, hu⟩ := @ih [] hrest.symm
        simp at hu
      | cons c rest =>
        cases hrest
        exact ⟨[], (isWritten_escapeSymbol s).eq_of_quote hs⟩

/-- The backslashes before a quote are odd in number. -/
theorem odd_trailingBackslashes {t : Text} {before after : List Char}
    (h : escape t = before ++ '"' :: after) : Odd (trailingBackslashes before) := by
  obtain ⟨u, rfl⟩ := exists_eq_escape_of_quote h
  rw [trailingBackslashes_concat_backslash]
  exact (even_trailingBackslashes_escape u).add_one

/-! ## §4 Reading -/

theorem scalarBytes?_toNat (c : Char) :
    scalarBytes? c.toNat = some (String.utf8EncodeChar c) := by
  rw [scalarBytes?, if_pos (isScalar c), Char.ofNat_toNat]

/-- An escape is read as its bytes. -/
theorem unescapeUpTo?_backslash {cs rest : List Char} {bs : List UInt8}
    (h : readEscape? cs = some (bs, rest)) (bound : Nat) :
    unescapeUpTo? (bound + 1) ('\\' :: cs) = (unescapeUpTo? bound rest).map (bs ++ ·) := by
  rw [unescapeUpTo?, h, Option.bind_some]

/-- A plain character is read as itself. -/
theorem unescapeUpTo?_plain {c : Char} (h : IsPlain c) (bound : Nat) (rest : List Char) :
    unescapeUpTo? (bound + 1) (c :: rest) =
      (unescapeUpTo? bound rest).map (String.utf8EncodeChar c ++ ·) := by
  have hline : c ≠ '\n' := by
    rintro rfl
    exact absurd h.printable (by decide)
  rw [unescapeUpTo?, if_neg (by simp [h.ne_quote, hline])]
  exact h.ne_backslash

theorem readEscape?_of_shortEscape? {c letter : Char} (h : shortEscape? c = some letter)
    (rest : List Char) :
    readEscape? (letter :: rest) = some (String.utf8EncodeChar c, rest) := by
  obtain ⟨n, hn⟩ : ∃ n, c.toNat = n := ⟨_, rfl⟩
  have hc : c = Char.ofNat n := by rw [← hn, Char.ofNat_toNat]
  unfold shortEscape? at h
  split at h
  case h_8 => cases h
  all_goals
    next hcode =>
    cases h
    rw [hc, ← hn, hcode]
    rfl

theorem readEscape?_byte (b : UInt8) (rest : List Char) :
    readEscape? ('x' :: (hexDigits 2 b.toNat ++ rest)) = some ([b], rest) := by
  rw [readEscape?, readHex?_hexDigits 2 b.toNat_lt]
  simp

theorem readEscape?_ascii {c : Char} (h : c.toNat < 0x80) (rest : List Char) :
    readEscape? ('x' :: (hexDigits 2 c.toNat ++ rest)) =
      some (String.utf8EncodeChar c, rest) := by
  have hcode : (UInt8.ofNat c.toNat).toNat = c.toNat := by
    rw [UInt8.toNat_ofNat']
    omega
  have hbytes := utf8EncodeChar_one (a := UInt8.ofNat c.toNat) (by omega)
  rw [hcode, Char.ofNat_toNat] at hbytes
  rw [hbytes, ← readEscape?_byte, hcode]

theorem readEscape?_four {c : Char} (h : c.toNat < 0x10000) (rest : List Char) :
    readEscape? ('u' :: (hexDigits 4 c.toNat ++ rest)) =
      some (String.utf8EncodeChar c, rest) := by
  rw [readEscape?, readHex?_hexDigits 4 h]
  simp only [Option.bind_some, scalarBytes?_toNat, Option.map_some]

theorem readEscape?_eight (c : Char) (rest : List Char) :
    readEscape? ('U' :: (hexDigits 8 c.toNat ++ rest)) =
      some (String.utf8EncodeChar c, rest) := by
  have hc := isScalar c
  rw [readEscape?, readHex?_hexDigits 8 (by omega)]
  simp only [Option.bind_some, scalarBytes?_toNat, Option.map_some]

/-- One symbol is read at a time, whatever follows. -/
theorem unescapeUpTo?_escapeSymbol (s : Symbol) (bound : Nat) (rest : List Char) :
    unescapeUpTo? (bound + 1) (escapeSymbol s ++ rest) =
      (unescapeUpTo? bound rest).map (s.bytes ++ ·) := by
  cases s with
  | stray b => exact unescapeUpTo?_backslash (readEscape?_byte b rest) bound
  | char c =>
    simp only [escapeSymbol, escapeChar]
    split
    · next hself =>
      rcases hself with rfl | rfl
      · exact unescapeUpTo?_backslash rfl bound
      · exact unescapeUpTo?_backslash rfl bound
    · next hself =>
      split
      · next hprintable =>
        have hplain : IsPlain c :=
          ⟨hprintable, fun h => hself (.inl h), fun h => hself (.inr h)⟩
        exact unescapeUpTo?_plain hplain bound rest
      · split
        · next hshort =>
          exact unescapeUpTo?_backslash (readEscape?_of_shortEscape? hshort rest) bound
        · split_ifs with hascii hfour
          · exact unescapeUpTo?_backslash (readEscape?_ascii hascii rest) bound
          · exact unescapeUpTo?_backslash (readEscape?_four hfour rest) bound
          · exact unescapeUpTo?_backslash (readEscape?_eight c rest) bound

/-- A written text stands for the bytes of the text. -/
theorem unescape?_escape (t : Text) : unescape? (escape t) = some (toBytes t) := by
  have hread : ∀ bound, (escape t).length ≤ bound →
      unescapeUpTo? bound (escape t) = some (toBytes t) := by
    induction t with
    | nil => intro bound _; cases bound <;> rfl
    | cons s t ih =>
      intro bound hbound
      rw [escape_cons, List.length_append] at hbound
      have := (isWritten_escapeSymbol s).length_pos
      obtain ⟨bound, rfl⟩ : ∃ n, bound = n + 1 := ⟨bound - 1, by omega⟩
      rw [escape_cons, unescapeUpTo?_escapeSymbol, ih bound (by omega)]
      rfl
  exact hread _ le_rfl

/-- A quoted text stands for what is between its quotes. -/
theorem unquote?_of_quotes (s : String) :
    unquote? ("\"" ++ s ++ "\"") = unescape? s.toList := by
  simp [unquote?]

theorem sanitize_toList (t : Text) : (sanitize t).toList = escape t := String.toList_ofList

/-- A text reads back from what is printed of it. -/
theorem unquote?_sanitize (t : Text) :
    unquote? ("\"" ++ sanitize t ++ "\"") = some (toBytes t) := by
  rw [unquote?_of_quotes, sanitize_toList, unescape?_escape]

/-- Is the character one of the controls of ASCII and Latin-1? They start the
escape sequences of terminals. -/
def isControl (c : Char) : Bool :=
  decide (c.toNat < 0x20) || (decide (0x7f ≤ c.toNat) && decide (c.toNat ≤ 0x9f))

theorem printableRanges_above : ∀ r ∈ printableRanges, 0xa1 ≤ r.1 := by decide +kernel

/-- No control is printable. -/
theorem not_isControl_of_isPrintable {c : Char} (h : isPrintable c = true) :
    isControl c = false := by
  unfold isPrintable at h
  split at h
  · next hascii =>
    have := of_decide_eq_true h
    simp [isControl]
    omega
  · next hascii =>
    obtain ⟨r, hr, hin⟩ := List.any_eq_true.mp h
    have := printableRanges_above r hr
    simp at hin
    simp [isControl]
    omega

/-- **What is printed of a text shows no controls and keeps the text.** For every
byte string, UTF-8 or not: what is printed of it is UTF-8, all its characters are
printable and none is a control, each double quote in it stands behind an odd
number of backslashes, and between double quotes it reads back as the very byte
string. So no two byte strings are printed alike. -/
theorem sanitize_reads_back :
    (∀ bs : List UInt8,
      ofBytes (bytesOf (sanitize (ofBytes bs))) = ofString (sanitize (ofBytes bs)) ∧
      (∀ c ∈ (sanitize (ofBytes bs)).toList, isPrintable c = true ∧ isControl c = false) ∧
      (∀ before after, (sanitize (ofBytes bs)).toList = before ++ '"' :: after →
        Odd (trailingBackslashes before)) ∧
      unquote? ("\"" ++ sanitize (ofBytes bs) ++ "\"") = some bs) ∧
    Function.Injective fun bs : List UInt8 => sanitize (ofBytes bs) := by
  have readBack (bs : List UInt8) :
      unquote? ("\"" ++ sanitize (ofBytes bs) ++ "\"") = some bs := by
    rw [unquote?_sanitize, toBytes_ofBytes]
  refine ⟨fun bs => ⟨ofBytes_bytesOf _, fun c hc => ?_, fun before after h => ?_, readBack bs⟩,
    fun bs bs' heq => ?_⟩
  · rw [sanitize_toList] at hc
    have hprintable := isPrintable_of_mem_escape hc
    exact ⟨hprintable, not_isControl_of_isPrintable hprintable⟩
  · rw [sanitize_toList] at h
    exact odd_trailingBackslashes h
  · have hsome : some bs = some bs' := by
      rw [← readBack bs, ← readBack bs']
      exact congrArg (fun s => unquote? ("\"" ++ s ++ "\"")) heq
    exact Option.some.inj hsome

/-- A quote and a backslash, an escape sequence, a stray byte next to the bytes
of a letter, and a line feed. -/
def awkwardBytes : List UInt8 := [0x22, 0x5c, 0x1b, 0x5b, 0xff, 0xc3, 0xa9, 0xc3, 0x0a]

theorem sanitize_reads_back_awkward :
    sanitize (ofBytes awkwardBytes) = "\\\"\\\\\\x1b[\\xffé\\xc3\\n" ∧
    Odd (trailingBackslashes ['\\']) ∧
    unquote? ("\"" ++ sanitize (ofBytes awkwardBytes) ++ "\"") = some awkwardBytes := by
  have hwritten : sanitize (ofBytes awkwardBytes) = "\\\"\\\\\\x1b[\\xffé\\xc3\\n" := by
    decide +kernel
  obtain ⟨h, -⟩ := sanitize_reads_back
  obtain ⟨-, -, hquotes, hread⟩ := h awkwardBytes
  refine ⟨hwritten, hquotes ['\\'] "\\\\\\x1b[\\xffé\\xc3\\n".toList ?_, hread⟩
  rw [hwritten]
  decide

end ArgTaint.Text
