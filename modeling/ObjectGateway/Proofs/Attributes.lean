import ObjectGateway.Attributes.Decode
import ObjectGateway.Proofs.Text.Escapes
/-!
# Stored attributes read back

The text that a list of pairs is stored under is read as that list: order and
repeated keys are kept, and every text may be a key or a value. The reader is
followed from its smallest part to the whole text, each part with an arbitrary text
behind it.
-/
namespace ObjectGateway.Attributes

open Json (escape escaped)

/-! ## Strings -/

theorem length_le_byteCount (cs : List Char) : cs.length ≤ byteCount cs := by
  induction cs with
  | nil => simp [byteCount]
  | cons c cs ih =>
    have := c.utf8Size_pos
    simp only [byteCount, List.length_cons]
    omega

theorem skipBlanks_cons {c : Char} (cs : List Char)
    (h : c ≠ ' ' ∧ c ≠ '\n' ∧ c ≠ '\t' ∧ c ≠ '\r') : skipBlanks (c :: cs) = c :: cs := by
  simp [skipBlanks, h]

/-- The letter of a short escape stands for the character that it was written for. -/
theorem letterEscape?_of_mem :
    ∀ pair ∈ Json.shortEscapes, pair.1 ≠ 'u' ∧ letterEscape? pair.1 = some pair.2 := by
  decide

/-- Four digits of a control character are read as that character. -/
theorem unicodeEscape_ofNat {c : Char} (h : c.toNat < 32) (rest : List Char) :
    unicodeEscape (Hex.ofNat 4 c.toNat ++ rest) = .ok (c, rest) := by
  have hlen : ¬byteCount (Hex.ofNat 4 c.toNat ++ rest) < 4 := by
    have := length_le_byteCount (Hex.ofNat 4 c.toNat ++ rest)
    simp only [List.length_append, Hex.length_ofNat] at this
    omega
  have hvalue : Hex.toNat? (Hex.ofNat 4 c.toNat) = some c.toNat :=
    Hex.toNat?_ofNat (by omega)
  have htake : (Hex.ofNat 4 c.toNat ++ rest).take 4 = Hex.ofNat 4 c.toNat :=
    List.take_left' (Hex.length_ofNat _ _)
  have hdrop : (Hex.ofNat 4 c.toNat ++ rest).drop 4 = rest :=
    List.drop_left' (Hex.length_ofNat _ _)
  have hread : hexEscape (Hex.ofNat 4 c.toNat ++ rest) = .ok (c.toNat, rest) := by
    simp only [hexEscape, if_neg hlen, htake, hvalue, hdrop]
  have hsurrogate : ¬(0xDC00 ≤ c.toNat ∧ c.toNat ≤ 0xDFFF) := by omega
  have hlead : c.toNat < 0xD800 ∨ 0xDBFF < c.toNat := by omega
  simp only [unicodeEscape, hread, bind, Except.bind, if_neg hsurrogate, if_pos hlead,
    Char.ofNat_toNat]

/-- One character of a string is read, whatever form it is written in. -/
theorem stringBody_escape (c : Char) (bound : Nat) (rest : List Char) :
    stringBody (bound + 1) (escape c ++ rest) =
      (stringBody bound rest).map fun read => (c :: read.1, read.2) := by
  -- Each form of a character is read by its own branch, and then the rest is.
  cases Json.form c with
  | short letter mem eq =>
    obtain ⟨hu, hletter⟩ : letter ≠ 'u' ∧ letterEscape? letter = some c :=
      letterEscape?_of_mem _ mem
    simp only [eq, List.cons_append, List.nil_append, stringBody, hletter]
    rw [if_neg (by decide), if_pos trivial]
    simp only [bind, Except.bind]
    cases stringBody bound rest <;> rfl
  | code small eq =>
    simp only [eq, List.cons_append, stringBody]
    rw [if_neg (by decide), if_pos trivial]
    simp only [unicodeEscape_ofNat small, bind, Except.bind]
    cases stringBody bound rest <;> rfl
  | plain quote backslash large eq =>
    simp only [eq, List.cons_append, List.nil_append, stringBody, if_neg quote, if_neg backslash,
      if_neg (Nat.not_lt.2 large), bind, Except.bind]
    cases stringBody bound rest <;> rfl

theorem stringBody_escaped (cs rest : List Char) (extra : Nat) :
    stringBody (cs.length + 1 + extra) (escaped cs ++ '"' :: rest) = .ok (cs, rest) := by
  induction cs with
  | nil => simp [stringBody, Nat.add_comm 1]
  | cons c cs ih =>
    have hbound : (c :: cs).length + 1 + extra = (cs.length + 1 + extra) + 1 := by
      simp only [List.length_cons]
      omega
    rw [hbound, Json.escaped_cons, List.append_assoc, stringBody_escape, ih]
    rfl

theorem stringRest_escaped (text : String) (rest : List Char) :
    stringRest (escaped text.toList ++ '"' :: rest) = .ok (text, rest) := by
  have hlen := Json.length_le_escaped text.toList
  -- The reader is given one step for each character of the text, which is no shorter than
  -- what it stands for.
  obtain ⟨extra, hextra⟩ : ∃ extra,
      (escaped text.toList ++ '"' :: rest).length + 1 = text.toList.length + 1 + extra := by
    refine ⟨(escaped text.toList ++ '"' :: rest).length - text.toList.length, ?_⟩
    simp only [List.length_append, List.length_cons]
    omega
  simp only [stringRest, hextra, stringBody_escaped, bind, Except.bind, pure, Except.pure,
    String.ofList_toList]

theorem readText_string (text : String) (rest : List Char) :
    readText (Json.string text ++ rest) = .ok (text, rest) := by
  simp only [readText, Json.string_eq, List.cons_append, List.append_assoc, List.nil_append,
    skipBlanks_cons _ (show '"' ≠ ' ' ∧ '"' ≠ '\n' ∧ '"' ≠ '\t' ∧ '"' ≠ '\r' by decide),
    stringRest_escaped]

/-! ## Lists -/

def pairText (pair : String × String) : List Char :=
  Json.bracketed '[' ']' [Json.string pair.1, Json.string pair.2]

theorem pairText_eq (pair : String × String) :
    pairText pair = '[' :: (Json.string pair.1 ++ ',' :: (Json.string pair.2 ++ [']'])) := by
  simp [pairText, Json.bracketed_cons, Json.tail]

theorem length_pairText (pair : String × String) : 3 ≤ (pairText pair).length := by
  simp only [pairText_eq, List.length_cons, List.length_append, List.length_nil]
  omega

theorem encode_eq (a : Attributes) : a.encode = Json.bracketed '[' ']' (a.pairs.map pairText) := rfl

theorem nextItem_first {c : Char} (rest : List Char) (hc : c = '"' ∨ c = '[') :
    nextItem true (c :: rest) = .ok (some (c :: rest)) := by
  rcases hc with rfl | rfl <;> rfl

theorem nextItem_comma {c : Char} (rest : List Char) (hc : c = '"' ∨ c = '[') :
    nextItem false (',' :: c :: rest) = .ok (some (c :: rest)) := by
  rcases hc with rfl | rfl <;> rfl

theorem closeList_end (rest : List Char) : closeList (']' :: rest) = .ok rest := rfl

theorem readPair_pairText (pair : String × String) (rest : List Char) :
    readPair (pairText pair ++ rest) = .ok (pair, rest) := by
  have hkey := readText_string pair.1 (',' :: (Json.string pair.2 ++ ']' :: rest))
  have hvalue := readText_string pair.2 (']' :: rest)
  have hfirst : nextItem true (Json.string pair.1 ++ ',' :: (Json.string pair.2 ++ ']' :: rest)) =
      .ok (some (Json.string pair.1 ++ ',' :: (Json.string pair.2 ++ ']' :: rest))) :=
    nextItem_first _ (.inl rfl)
  have hsecond : nextItem false (',' :: (Json.string pair.2 ++ ']' :: rest)) =
      .ok (some (Json.string pair.2 ++ ']' :: rest)) :=
    nextItem_comma _ (.inl rfl)
  simp only [pairText_eq, List.cons_append, List.append_assoc, List.nil_append, readPair,
    skipBlanks_cons _ (show '[' ≠ ' ' ∧ '[' ≠ '\n' ∧ '[' ≠ '\t' ∧ '[' ≠ '\r' by decide),
    hfirst, hkey, hsecond, hvalue, closeList_end, bind, Except.bind, pure, Except.pure]

/-- The pairs behind the first one. -/
theorem readPairs_tail (pairs : List (String × String)) (rest : List Char) (extra : Nat) :
    readPairs (pairs.length + 1 + extra) false (Json.tail ']' (pairs.map pairText) ++ rest) =
      .ok (pairs, rest) := by
  -- One step of the bound for each pair, and one for the closing bracket.
  induction pairs with
  | nil =>
    rw [show ([] : List (String × String)).length + 1 + extra = extra + 1 by simp; omega]
    rfl
  | cons pair pairs ih =>
    rw [show (pair :: pairs).length + 1 + extra = (pairs.length + 1 + extra) + 1 by
      simp only [List.length_cons]; omega]
    have hnext : nextItem false
        (',' :: (pairText pair ++ (Json.tail ']' (pairs.map pairText) ++ rest))) =
        .ok (some (pairText pair ++ (Json.tail ']' (pairs.map pairText) ++ rest))) :=
      nextItem_comma _ (.inr rfl)
    simp only [List.map_cons, Json.tail, List.cons_append, List.append_assoc, readPairs, hnext,
      readPair_pairText, ih, bind, Except.bind, pure, Except.pure]

theorem length_lt_tail (items : List (List Char)) :
    items.length < (Json.tail ']' items).length := by
  induction items with
  | nil => simp [Json.tail]
  | cons item items ih =>
    simp only [Json.tail, List.length_cons, List.length_append]
    omega

theorem readAll_encode (a : Attributes) : readAll a.encode = .ok a := by
  obtain ⟨pairs⟩ := a
  cases pairs with
  | nil => rfl
  | cons pair pairs =>
    have hbound : ∃ extra, (pairText pair ++ Json.tail ']' (pairs.map pairText)).length =
        pairs.length + 1 + extra := by
      refine ⟨(pairText pair ++ Json.tail ']' (pairs.map pairText)).length - pairs.length - 1, ?_⟩
      have hle := length_lt_tail (pairs.map pairText)
      have hpair := length_pairText pair
      simp only [List.length_append, List.length_map] at hle ⊢
      omega
    obtain ⟨extra, hextra⟩ := hbound
    have hfirst : nextItem true (pairText pair ++ Json.tail ']' (pairs.map pairText)) =
        .ok (some (pairText pair ++ Json.tail ']' (pairs.map pairText))) :=
      nextItem_first _ (.inr rfl)
    have htail := readPairs_tail pairs [] extra
    rw [List.append_nil] at htail
    simp only [encode_eq, List.map_cons, Json.bracketed_cons, readAll,
      skipBlanks_cons _ (show '[' ≠ ' ' ∧ '[' ≠ '\n' ∧ '[' ≠ '\t' ∧ '[' ≠ '\r' by decide),
      hextra, readPairs, hfirst, readPair_pairText, htail, bind, Except.bind, pure, Except.pure]
    rfl

/-- Reading the stored text of a list of pairs gives the list back. -/
theorem decode_encode (a : Attributes) : decode (String.ofList a.encode) = .ok a := by
  simp [decode, readAll_encode, Except.mapError]

/-! ## Labels -/

section

variable {a : Attributes} {key name n value : String} {now : Int}

theorem mem_of_get? (h : a.get? key = some value) : (key, value) ∈ a.pairs := by
  obtain ⟨pair, hfind, rfl⟩ := Option.map_eq_some_iff.mp h
  have hkey : pair.1 = key := by simpa using List.find?_some hfind
  exact hkey ▸ List.mem_reverse.mp (List.mem_of_find?_eq_some hfind)

/-- A key that occurs has a value that counts. -/
theorem exists_get?_of_mem (h : (key, value) ∈ a.pairs) : ∃ last, a.get? key = some last := by
  have hfind : (a.pairs.reverse.find? fun pair => pair.1 == key).isSome := by
    rw [List.find?_isSome]
    exact ⟨(key, value), List.mem_reverse.mpr h, beq_self_eq_true key⟩
  obtain ⟨pair, hpair⟩ := Option.isSome_iff_exists.mp hfind
  exact ⟨pair.2, by rw [get?, hpair, Option.map_some]⟩

/-- The display name is found under its key. -/
theorem get?_named (hkey : key ≠ timestampKey) (name : String) (now : Int) :
    (named key name now).get? key = some name := by
  simp [named, get?, Ne.symm hkey]

theorem mem_pairs_named (hkey : key ≠ timestampKey) :
    (key, n) ∈ (named key name now).pairs ↔ name = n := by
  simp [named, hkey, eq_comm]

theorem nameKey_ne : nameKey ≠ timestampKey := by decide

theorem fileNameKey_ne : fileNameKey ≠ timestampKey := by decide

end

end ObjectGateway.Attributes
