import ObjectGateway.Durable.Document.Search
import ObjectGateway.Proofs.Attributes
import Mathlib.Data.List.TakeWhile
/-!
# Searching finds the stored pairs

The database looks into attribute texts with a reader and a writer of its own. On the
texts that attributes are stored under both do nothing: a string is taken out as the
text that was put in, and a pair is found exactly when it is one of those stored.
-/
namespace ObjectGateway.Durable.Document

open Json (escape escaped)

def symbols (cs : List Char) : List Symbol := cs.map some

@[simp] theorem symbols_nil : symbols [] = [] := rfl

@[simp] theorem symbols_cons (c : Char) (cs : List Char) :
    symbols (c :: cs) = some c :: symbols cs := rfl

@[simp] theorem symbols_append (xs ys : List Char) :
    symbols (xs ++ ys) = symbols xs ++ symbols ys := List.map_append

theorem symbols_injective {xs ys : List Char} (h : symbols xs = symbols ys) : xs = ys :=
  (List.map_inj_right fun _ _ => Option.some.inj).1 h

/-! ## Plain characters -/

/-- A character that stands for itself in a string. -/
def IsPlain (c : Char) : Prop := c ≠ '"' ∧ c ≠ '\\' ∧ escape c = [c]

theorem isPlain_digitChar : ∀ d < 16, Nat.digitChar d ≠ '"' ∧ Nat.digitChar d ≠ '\\' ∧
    escape (Nat.digitChar d) = [Nat.digitChar d] := by
  decide

theorem isPlain_ofNat (width n : Nat) : ∀ c ∈ Hex.ofNat width n, IsPlain c := by
  intro c h
  obtain ⟨d, hd, rfl⟩ := Hex.mem_ofNat h
  exact isPlain_digitChar d hd

theorem strict_plain {cs : List Char} (h : ∀ c ∈ cs, IsPlain c) (rest : List Symbol) :
    strict (symbols cs ++ rest) = symbols cs ++ strict rest := by
  induction cs with
  | nil => rfl
  | cons c cs ih =>
    obtain ⟨-, hslash, hself⟩ := h c List.mem_cons_self
    have hrest := ih fun d hd => h d (List.mem_cons_of_mem _ hd)
    simp [strict, hslash, hself, hrest]

theorem stringBody?_plain {cs : List Char} (h : ∀ c ∈ cs, IsPlain c) (rest : List Symbol) :
    stringBody? '"' (symbols cs ++ rest) =
      (stringBody? '"' rest).map fun read => (symbols cs ++ read.1, read.2) := by
  induction cs with
  | nil => simp
  | cons c cs ih =>
    obtain ⟨hquote, hslash, -⟩ := h c List.mem_cons_self
    have hrest := ih fun d hd => h d (List.mem_cons_of_mem _ hd)
    simp [stringBody?, hslash, hquote, hrest, Function.comp_def]

/-! ## Strings -/

theorem hexOf_symbols {digits : List Char} {n : Nat} (h : Hex.toNat? digits = some n) :
    hexOf (symbols digits) = n := by
  have general : ∀ acc, Hex.readFrom acc digits = some n →
      (symbols digits).foldl (fun n d => 16 * n + ((d.bind Hex.digit?).getD 0)) acc = n := by
    clear h
    induction digits with
    | nil =>
      intro acc h
      simpa [Hex.readFrom] using h
    | cons c cs ih =>
      intro acc h
      simp only [Hex.readFrom] at h
      cases hc : Hex.digit? c with
      | none => simp [hc] at h
      | some d =>
        simp only [hc, Option.bind_some] at h
        simpa [hc] using ih _ h
  exact general 0 h

theorem startsWithHex_ofNat (n : Nat) (rest : List Symbol) :
    startsWithHex 4 (symbols (Hex.ofNat 4 n) ++ rest) = true := by
  have hlen : (symbols (Hex.ofNat 4 n)).length = 4 := by simp [symbols]
  have htake : (symbols (Hex.ofNat 4 n) ++ rest).take 4 = symbols (Hex.ofNat 4 n) :=
    List.take_left' hlen
  have hall : (symbols (Hex.ofNat 4 n)).all isHexDigit = true := by
    simp only [symbols, List.all_map, List.all_eq_true]
    intro c hc
    obtain ⟨d, hd, rfl⟩ := Hex.mem_ofNat hc
    simp [isHexDigit, Hex.digit?_digitChar d hd]
  simp [startsWithHex, htake, hlen, hall]

/-- The database writes a stored character as it is stored. -/
theorem strict_escape (c : Char) (rest : List Symbol) :
    strict (symbols (escape c) ++ rest) = symbols (escape c) ++ strict rest := by
  -- None of the three forms is one that the database would write differently.
  cases Json.form c with
  | short letter mem eq =>
    rw [eq]
    simp only [Json.shortEscapes, List.mem_cons, List.not_mem_nil, or_false, Prod.mk.injEq] at mem
    rcases mem with ⟨rfl, -⟩ | ⟨rfl, -⟩ | ⟨rfl, -⟩ | ⟨rfl, -⟩ | ⟨rfl, -⟩ | ⟨rfl, -⟩ | ⟨rfl, -⟩ <;> rfl
  | code small eq =>
    have hdigits := strict_plain (isPlain_ofNat 4 c.toNat) rest
    have hu : strict (some '\\' :: some 'u' :: (symbols (Hex.ofNat 4 c.toNat) ++ rest)) =
        some '\\' :: some 'u' :: strict (symbols (Hex.ofNat 4 c.toNat) ++ rest) := rfl
    simp only [eq, symbols_cons, List.cons_append, hu, hdigits]
  | plain quote backslash large eq =>
    rw [eq]
    exact strict_plain (fun d hd => by rw [List.mem_singleton.1 hd]; exact ⟨quote, backslash, eq⟩) rest

theorem strict_escaped (cs : List Char) : strict (symbols (escaped cs)) = symbols (escaped cs) := by
  induction cs with
  | nil => rfl
  | cons c cs ih => rw [Json.escaped_cons, symbols_append, strict_escape, ih]

theorem stringBody?_escape (c : Char) (rest : List Symbol) :
    stringBody? '"' (symbols (escape c) ++ rest) =
      (stringBody? '"' rest).map fun read => (symbols (escape c) ++ read.1, read.2) := by
  -- A quote or a backslash is never seen alone, so no character ends the string early.
  cases Json.form c with
  | short letter mem eq =>
    rw [eq]
    simp only [Json.shortEscapes, List.mem_cons, List.not_mem_nil, or_false, Prod.mk.injEq] at mem
    rcases mem with ⟨rfl, -⟩ | ⟨rfl, -⟩ | ⟨rfl, -⟩ | ⟨rfl, -⟩ | ⟨rfl, -⟩ | ⟨rfl, -⟩ | ⟨rfl, -⟩ <;> rfl
  | code small eq =>
    have hdigits := stringBody?_plain (isPlain_ofNat 4 c.toNat) rest
    have hu : isEscape 'u' (symbols (Hex.ofNat 4 c.toNat) ++ rest) = true :=
      startsWithHex_ofNat c.toNat rest
    simp [eq, stringBody?, hu, hdigits, Function.comp_def]
  | plain quote backslash large eq =>
    rw [eq]
    exact stringBody?_plain (fun d hd => by rw [List.mem_singleton.1 hd]; exact ⟨quote, backslash, eq⟩) rest

theorem stringBody?_escaped (cs : List Char) (rest : List Symbol) :
    stringBody? '"' (symbols (escaped cs) ++ some '"' :: rest) =
      some (symbols (escaped cs), rest) := by
  induction cs with
  | nil => simp [stringBody?]
  | cons c cs ih =>
    rw [Json.escaped_cons, symbols_append, List.append_assoc, stringBody?_escape, ih]
    rfl

theorem assemble_symbol (c : Symbol) (ps : List Piece) :
    assemble (.symbol c :: ps) = c :: assemble ps := rfl

/-- A code that is no half of a surrogate pair stands for its character, whatever
follows it. -/
theorem assemble_code {n : Nat} (h : n < 0xD800) (ps : List Piece) :
    assemble (.code n :: ps) = some (Char.ofNat n) :: assemble ps := by
  have hsymbol : symbolOf n = some (Char.ofNat n) := if_neg (by omega)
  -- Only a code that follows could be joined with this one, which is no high half.
  match ps with
  | [] | .symbol _ :: _ | .joint :: _ => simp [assemble, hsymbol]
  | .code low :: ps =>
    rw [assemble, if_neg (by omega), hsymbol]

theorem assemble_pieces_escape (c : Char) (rest : List Symbol) :
    assemble (pieces (symbols (escape c) ++ rest)) = some c :: assemble (pieces rest) := by
  cases Json.form c with
  | short letter mem eq =>
    rw [eq]
    simp only [Json.shortEscapes, List.mem_cons, List.not_mem_nil, or_false, Prod.mk.injEq] at mem
    rcases mem with ⟨rfl, rfl⟩ | ⟨rfl, rfl⟩ | ⟨rfl, rfl⟩ | ⟨rfl, rfl⟩ | ⟨rfl, rfl⟩ | ⟨rfl, rfl⟩ |
      ⟨rfl, rfl⟩ <;> rfl
  | code small eq =>
    have hvalue : hexOf (symbols (Hex.ofNat 4 c.toNat)) = c.toNat :=
      hexOf_symbols (Hex.toNat?_ofNat (by omega))
    have hpieces : pieces (some '\\' :: some 'u' :: (symbols (Hex.ofNat 4 c.toNat) ++ rest)) =
        .code (hexOf (symbols (Hex.ofNat 4 c.toNat))) :: pieces rest := rfl
    simp only [eq, symbols_cons, List.cons_append, hpieces, hvalue,
      assemble_code (show c.toNat < 0xD800 by omega), Char.ofNat_toNat]
  | plain quote backslash large eq =>
    have hpieces : pieces (some c :: rest) = .symbol (some c) :: pieces rest := by
      simp [pieces, backslash]
    simp only [eq, symbols_cons, symbols_nil, List.cons_append, List.nil_append, hpieces,
      assemble_symbol]

/-- A stored string is taken out as the text it was stored for. -/
theorem unescape_escaped (cs : List Char) : unescape (symbols (escaped cs)) = symbols cs := by
  induction cs with
  | nil => rfl
  | cons c cs ih =>
    have hrest : assemble (pieces (symbols (escaped cs))) = symbols cs := ih
    rw [unescape, Json.escaped_cons, symbols_append, assemble_pieces_escape, hrest, symbols_cons]

/-! ## Documents -/

def ofText (s : String) : Document := text (symbols (escaped s.toList))

def ofPair (pair : String × String) : Document := list [ofText pair.1, ofText pair.2]

/-- A text that starts as an item of a stored list does, and that is read as a document
whatever follows it. -/
structure Reads (bound depth : Nat) (written : List Char) (d : Document) : Prop where
  head : ∃ c cs, written = c :: cs ∧ (c = '"' ∨ c = '[')
  value : ∀ rest, value? bound depth (symbols written ++ rest) = some (d, rest)

theorem skipBlanks_some {c : Char} (rest : List Symbol) (h : (isBlank c || c = '/') = false) :
    skipBlanks (some c :: rest) = some c :: rest := by
  unfold skipBlanks
  exact if_neg (by simpa using h)

theorem reads_string (bound depth : Nat) (s : String) :
    Reads (bound + 1) depth (Json.string s) (ofText s) where
  head := ⟨'"', _, rfl, .inl rfl⟩
  value rest := by
    simp only [Json.string_eq, symbols_append, symbols_cons, symbols_nil, List.cons_append,
      List.append_assoc, List.nil_append, value?, skipBlanks_some (c := '"') _ (by decide),
      stringBody?_escaped, Option.map_some, ofText]

/-- The items behind an opening bracket, each of which is read within the bound `least`. -/
theorem items?_join {least depth : Nat} (first : List Char × Document)
    (others : List (List Char × Document))
    (h : ∀ item ∈ first :: others, ∀ extra, Reads (least + extra) depth item.1 item.2)
    (extra : Nat) (rest : List Symbol) :
    items? (others.length + 1 + least + extra) depth
        (symbols (first.1 ++ Json.tail ']' (others.map Prod.fst)) ++ rest) =
      some (first.2 :: others.map Prod.snd, rest) := by
  -- The bound goes down by one an item, so for the item itself at least `least` is left.
  induction others generalizing first with
  | nil =>
    obtain ⟨⟨c, cs, hfirst, hc⟩, hvalue⟩ := h first List.mem_cons_self extra
    have hread := hvalue (some ']' :: rest)
    rw [hfirst] at hread
    have hblank : (isBlank c || c = '/') = false := by rcases hc with rfl | rfl <;> decide
    have hend : c ≠ ']' := by rcases hc with rfl | rfl <;> decide
    rw [show ([] : List (List Char × Document)).length + 1 + least + extra =
      (least + extra) + 1 by simp; omega]
    simp only [symbols_cons, List.cons_append] at hread
    simp [items?, Json.tail, hfirst, skipBlanks_some _ hblank, hend, hread,
      skipBlanks_some (c := ']') _ (by decide)]
  | cons next others ih =>
    obtain ⟨⟨c, cs, hfirst, hc⟩, hvalue⟩ :=
      h first List.mem_cons_self (others.length + 1 + extra)
    have hread := hvalue (some ',' ::
      (symbols (next.1 ++ Json.tail ']' (others.map Prod.fst)) ++ rest))
    have hothers := ih next fun item hitem => h item (List.mem_cons_of_mem _ hitem)
    rw [hfirst] at hread
    have hblank : (isBlank c || c = '/') = false := by rcases hc with rfl | rfl <;> decide
    have hend : c ≠ ']' := by rcases hc with rfl | rfl <;> decide
    rw [show (next :: others).length + 1 + least + extra =
      (others.length + 1 + least + extra) + 1 by simp only [List.length_cons]; omega]
    rw [show least + (others.length + 1 + extra) = others.length + 1 + least + extra by omega]
      at hread
    simp only [symbols_cons, symbols_append, List.cons_append, List.append_assoc] at hread hothers
    simp [items?, Json.tail, hfirst, skipBlanks_some _ hblank, hend, hread, hothers,
      skipBlanks_some (c := ',') _ (by decide)]

/-- A list of items, the bound allowing for each of them. -/
theorem value?_bracketed {least depth : Nat} (items : List (List Char × Document))
    (h : ∀ item ∈ items, ∀ extra, Reads (least + extra) depth item.1 item.2) (extra : Nat)
    (rest : List Symbol) :
    value? (items.length + 2 + least + extra) (depth + 1)
        (symbols (Json.bracketed '[' ']' (items.map Prod.fst)) ++ rest) =
      some (list (items.map Prod.snd), rest) := by
  rw [show items.length + 2 + least + extra = (items.length + 1 + least + extra) + 1 by omega]
  cases items with
  | nil =>
    rw [show ([] : List (List Char × Document)).length + 1 + least + extra =
      (least + extra) + 1 by simp; omega]
    simp [Json.bracketed_nil, value?, items?, skipBlanks_some (c := '[') _ (by decide),
      skipBlanks_some (c := ']') _ (by decide)]
  | cons first others =>
    have hitems := items?_join first others h (extra + 1) rest
    rw [show others.length + 1 + least + (extra + 1) =
      (first :: others).length + 1 + least + extra by simp only [List.length_cons]; omega] at hitems
    simp only [symbols_append, List.append_assoc] at hitems
    simp only [List.map_cons, Json.bracketed_cons, symbols_cons, symbols_append, List.cons_append,
      List.append_assoc, value?, skipBlanks_some (c := '[') _ (by decide), hitems, Option.map_some]

theorem reads_pair (depth extra : Nat) (pair : String × String) :
    Reads (5 + extra) (depth + 1) (Attributes.pairText pair) (ofPair pair) where
  head := ⟨'[', _, Attributes.pairText_eq pair, .inr rfl⟩
  value rest := by
    have hitems : ∀ item ∈ [(Json.string pair.1, ofText pair.1), (Json.string pair.2, ofText pair.2)],
        ∀ extra, Reads (1 + extra) depth item.1 item.2 := by
      intro item hitem extra
      rw [Nat.add_comm 1]
      simp only [List.mem_cons, List.not_mem_nil, or_false] at hitem
      rcases hitem with rfl | rfl <;> exact reads_string extra depth _
    have := value?_bracketed _ hitems extra rest
    simpa [Attributes.pairText, ofPair] using this

/-- A text without a zero, at which the database would stop reading. -/
def ZeroFree (cs : List Char) : Prop := ∀ c ∈ cs, c.toNat ≠ 0

theorem ZeroFree.append {xs ys : List Char} (hx : ZeroFree xs) (hy : ZeroFree ys) :
    ZeroFree (xs ++ ys) := fun c hc => (List.mem_append.1 hc).elim (hx c) (hy c)

theorem ZeroFree.cons {c : Char} {cs : List Char} (hc : c.toNat ≠ 0) (hcs : ZeroFree cs) :
    ZeroFree (c :: cs) := by
  intro d hd
  rcases List.mem_cons.1 hd with rfl | hd
  · exact hc
  · exact hcs d hd

theorem ZeroFree.nil : ZeroFree [] := fun _ h => nomatch h

/-- Such a text is read to its end. -/
theorem ZeroFree.takeWhile {cs : List Char} (h : ZeroFree cs) :
    (symbols cs).takeWhile (· != some (Char.ofNat 0)) = symbols cs := by
  refine List.takeWhile_eq_self_iff.2 ?_
  intro x hx
  obtain ⟨c, hc, rfl⟩ := List.mem_map.1 hx
  have hzero : c ≠ Char.ofNat 0 := fun e => h c hc (by rw [e]; rfl)
  simpa using hzero

theorem zeroFree_escape (c : Char) : ZeroFree (escape c) := by
  cases Json.form c with
  | short letter mem eq =>
    have hletters : ∀ pair ∈ Json.shortEscapes, pair.1.toNat ≠ 0 := by decide
    rw [eq]
    exact .cons (by decide) (.cons (hletters _ mem) .nil)
  | code small eq =>
    have hdigits : ∀ d < 16, (Nat.digitChar d).toNat ≠ 0 := by decide
    rw [eq]
    refine .cons (by decide) (.cons (by decide) fun d hd => ?_)
    obtain ⟨v, hv, rfl⟩ := Hex.mem_ofNat hd
    exact hdigits v hv
  | plain _ _ large eq =>
    rw [eq]
    exact .cons (by omega) .nil

theorem zeroFree_string (s : String) : ZeroFree (Json.string s) := by
  have hbody : ZeroFree (escaped s.toList) := by
    intro c hc
    obtain ⟨d, -, hd⟩ := List.mem_flatMap.1 hc
    exact zeroFree_escape d c hd
  rw [Json.string_eq, List.cons_append]
  exact .cons (by decide) (hbody.append (.cons (by decide) .nil))

theorem zeroFree_bracketed {items : List (List Char)} (h : ∀ item ∈ items, ZeroFree item) :
    ZeroFree (Json.bracketed '[' ']' items) := by
  have htail : ∀ items : List (List Char), (∀ item ∈ items, ZeroFree item) →
      ZeroFree (Json.tail ']' items) := by
    intro items
    induction items with
    | nil => exact fun _ => .cons (by decide) .nil
    | cons item items ih =>
      intro hall
      have hrest := ih fun other hother => hall other (List.mem_cons_of_mem _ hother)
      exact .cons (by decide) ((hall item List.mem_cons_self).append hrest)
  cases items with
  | nil => exact .cons (by decide) (.cons (by decide) .nil)
  | cons item items =>
    have hrest := htail items fun other hother => h other (List.mem_cons_of_mem _ hother)
    rw [Json.bracketed_cons]
    exact .cons (by decide) ((h item List.mem_cons_self).append hrest)

theorem zeroFree_pairText (pair : String × String) : ZeroFree (Attributes.pairText pair) := by
  refine zeroFree_bracketed ?_
  intro item hitem
  simp only [List.mem_cons, List.not_mem_nil, or_false] at hitem
  rcases hitem with rfl | rfl <;> exact zeroFree_string _

/-- A text that starts with a document and holds nothing more is that document. -/
theorem parse?_of_value? {cs : List Char} {d : Document} (hzero : ZeroFree cs)
    (hvalue : value? (2 * (symbols cs).length + 2) 1000 (symbols cs) = some (d, [])) :
    parse? (symbols cs) = some d := by
  unfold parse?
  rw [hzero.takeWhile]
  simp only [maxDepth, hvalue]
  rfl

/-- The text of one pair is read as the document of that pair. -/
theorem parse?_pairText (pair : String × String) :
    parse? (symbols (Attributes.pairText pair)) = some (ofPair pair) := by
  refine parse?_of_value? (zeroFree_pairText pair) ?_
  obtain ⟨extra, hextra⟩ :
      ∃ extra, 2 * (symbols (Attributes.pairText pair)).length + 2 = 5 + extra := by
    refine ⟨2 * (symbols (Attributes.pairText pair)).length - 3, ?_⟩
    have hlen := Attributes.length_pairText pair
    simp only [symbols, List.length_map]
    omega
  have hvalue := (reads_pair 999 extra pair).value []
  rw [List.append_nil] at hvalue
  rw [hextra, hvalue]

/-- The text of a list of pairs is longer than the list. -/
theorem length_lt_encode (pair : String × String) (pairs : List (String × String)) :
    pairs.length + 5 ≤ (Attributes.encode ⟨pair :: pairs⟩).length := by
  have htail := Attributes.length_lt_tail (pairs.map Attributes.pairText)
  have hpair := Attributes.length_pairText pair
  simp only [List.length_map] at htail
  simp only [Attributes.encode_eq, List.map_cons, Json.bracketed_cons, List.length_cons,
    List.length_append]
  omega

/-- A stored attribute text is read as the list of its pairs. -/
theorem parse?_encode (a : Attributes) :
    parse? (symbols a.encode) = some (list (a.pairs.map ofPair)) := by
  have hzero : ZeroFree a.encode := by
    refine zeroFree_bracketed ?_
    intro item hitem
    obtain ⟨pair, -, rfl⟩ := List.mem_map.1 hitem
    exact zeroFree_pairText pair
  obtain ⟨pairs⟩ := a
  cases pairs with
  | nil => rfl
  | cons pair pairs =>
    refine parse?_of_value? hzero ?_
    have hitems : ∀ item ∈ (pair :: pairs).map fun pair => (Attributes.pairText pair, ofPair pair),
        ∀ extra, Reads (5 + extra) 999 item.1 item.2 := by
      intro item hitem extra
      obtain ⟨pair, -, rfl⟩ := List.mem_map.1 hitem
      exact reads_pair 998 extra pair
    -- Each pair takes more than two characters, so the bound on the parts is never met.
    obtain ⟨extra, hextra⟩ : ∃ extra,
        2 * (symbols (Attributes.encode ⟨pair :: pairs⟩)).length + 2 =
          (pair :: pairs).length + 2 + 5 + extra := by
      refine ⟨2 * (symbols (Attributes.encode ⟨pair :: pairs⟩)).length - pairs.length - 6, ?_⟩
      have hlen := length_lt_encode pair pairs
      simp only [symbols, List.length_map, List.length_cons]
      omega
    have hvalue := value?_bracketed _ hitems extra []
    simp only [List.map_map, List.length_map, Function.comp_def, List.append_nil] at hvalue
    rw [hextra]
    exact hvalue

/-! ## Finding a pair -/

theorem render_ofPair (pair : String × String) :
    (ofPair pair).render = symbols (Attributes.pairText pair) := by
  simp [ofPair, ofText, render, renderAll, bracketed, quoted, strict_escaped,
    Attributes.pairText_eq, Json.string_eq]

theorem outside_ofText (s : String) : (ofText s).outside = .ok (some (symbols s.toList)) := by
  simp [ofText, outside, unescape_escaped]

theorem symbols_eq_ofText {s wanted : String} :
    symbols s.toList = Symbol.ofText wanted ↔ s = wanted :=
  ⟨fun h => String.toList_inj.1 (symbols_injective h), fun h => h ▸ rfl⟩

theorem itemIs_ofPair_zero (pair : String × String) (wanted : String) :
    (ofPair pair).itemIs 0 wanted = .ok (pair.1 == wanted) := by
  simp [ofPair, itemIs, outside_ofText, symbols_eq_ofText, bind, Except.bind, pure, Except.pure]

theorem itemIs_ofPair_one (pair : String × String) (wanted : String) :
    (ofPair pair).itemIs 1 wanted = .ok (pair.2 == wanted) := by
  simp [ofPair, itemIs, outside_ofText, symbols_eq_ofText, bind, Except.bind, pure, Except.pure]

theorem isPair_ofPair (key value : String) (pair : String × String) :
    isPair key value (ofPair pair) = .ok (pair == (key, value)) := by
  -- The search reads each pair anew from the text it writes for it.
  have hwritten : (ofPair pair).outside = .ok (some (symbols (Attributes.pairText pair))) := by
    rw [← render_ofPair]
    rfl
  simp only [isPair, hwritten, parse?_pairText, itemIs_ofPair_zero, itemIs_ofPair_one, bind,
    Except.bind, pure, Except.pure]
  by_cases hkey : pair.1 = key <;> simp [Prod.ext_iff, hkey]

theorem anyPair_map_ofPair (key value : String) (pairs : List (String × String)) :
    anyPair key value (pairs.map ofPair) = .ok (pairs.contains (key, value)) := by
  induction pairs with
  | nil => rfl
  | cons pair pairs ih =>
    simp only [List.map_cons, anyPair, isPair_ofPair, ih, bind, Except.bind, pure, Except.pure,
      List.contains_cons, BEq.comm (a := (key, value))]
    cases pair == (key, value) <;> rfl

/-- A search finds a pair in a stored attribute text exactly when it is stored there. -/
theorem hasPair_encode (key value : String) (a : Attributes) :
    hasPair key value (String.ofList a.encode) = .ok (a.pairs.contains (key, value)) := by
  have hread : parse? (Symbol.ofText (String.ofList a.encode)) = some (list (a.pairs.map ofPair)) := by
    rw [Symbol.ofText, String.toList_ofList]
    exact parse?_encode a
  simp only [hasPair, hread]
  exact anyPair_map_ofPair key value a.pairs

end ObjectGateway.Durable.Document
