import ObjectGateway.Json.Text
import ObjectGateway.Proofs.Text.Hexadecimal
/-!
# The escapes of JSON strings

A character is written in one of three forms: as itself, behind a backslash as a
letter, or behind a backslash as four digits. What reads strings has one lemma for
each form.
-/
namespace ObjectGateway.Json

/-- The characters with a short escape: the letter behind the backslash, and the
character it stands for. -/
def shortEscapes : List (Char × Char) :=
  [('"', '"'), ('\\', '\\'), ('b', Char.ofNat 8), ('t', Char.ofNat 9), ('n', Char.ofNat 10),
    ('f', Char.ofNat 12), ('r', Char.ofNat 13)]

/-- The form a character is written in. -/
inductive Form (c : Char) : Prop
  | short (letter : Char) (mem : (letter, c) ∈ shortEscapes) (eq : escape c = ['\\', letter])
  | code (small : c.toNat < 32) (eq : escape c = '\\' :: 'u' :: Hex.ofNat 4 c.toNat)
  | plain (quote : c ≠ '"') (backslash : c ≠ '\\') (large : 32 ≤ c.toNat) (eq : escape c = [c])

theorem eq_ofNat_of_toNat {c : Char} {n : Nat} (h : c.toNat = n) : c = Char.ofNat n := by
  rw [← h, Char.ofNat_toNat]

theorem form (c : Char) : Form c := by
  by_cases h1 : c = '"'
  · exact .short '"' (by simp [shortEscapes, h1]) (by simp [escape, h1])
  by_cases h2 : c = '\\'
  · exact .short '\\' (by simp [shortEscapes, h2]) (by simp [escape, h2])
  by_cases h3 : c.toNat = 8
  · exact .short 'b' (by simp [shortEscapes, eq_ofNat_of_toNat h3]) (by simp [escape, h1, h2, h3])
  by_cases h4 : c.toNat = 9
  · exact .short 't' (by simp [shortEscapes, eq_ofNat_of_toNat h4]) (by simp [escape, h1, h2, h4])
  by_cases h5 : c.toNat = 10
  · exact .short 'n' (by simp [shortEscapes, eq_ofNat_of_toNat h5]) (by simp [escape, h1, h2, h5])
  by_cases h6 : c.toNat = 12
  · exact .short 'f' (by simp [shortEscapes, eq_ofNat_of_toNat h6]) (by simp [escape, h1, h2, h6])
  by_cases h7 : c.toNat = 13
  · exact .short 'r' (by simp [shortEscapes, eq_ofNat_of_toNat h7]) (by simp [escape, h1, h2, h7])
  by_cases h8 : c.toNat < 32
  · exact .code h8 (by simp [escape, h1, h2, h3, h4, h5, h6, h7, h8])
  · exact .plain h1 h2 (by omega) (by simp [escape, h1, h2, h3, h4, h5, h6, h7, h8])

def escaped (cs : List Char) : List Char := cs.flatMap escape

@[simp] theorem escaped_nil : escaped [] = [] := rfl

@[simp] theorem escaped_cons (c : Char) (cs : List Char) :
    escaped (c :: cs) = escape c ++ escaped cs := rfl

theorem string_eq (text : String) : string text = '"' :: escaped text.toList ++ ['"'] := rfl

theorem length_escape_pos (c : Char) : 0 < (escape c).length := by
  cases form c with
  | short letter _ eq => simp [eq]
  | code _ eq => simp [eq]
  | plain _ _ _ eq => simp [eq]

theorem length_le_escaped (cs : List Char) : cs.length ≤ (escaped cs).length := by
  induction cs with
  | nil => simp
  | cons c cs ih =>
    have := length_escape_pos c
    simp only [escaped_cons, List.length_append, List.length_cons]
    omega

/-! ## Lists -/

def tail (closing : Char) : List (List Char) → List Char
  | [] => [closing]
  | item :: items => ',' :: item ++ tail closing items

theorem flatten_intersperse_cons (item : List Char) (items : List (List Char)) (closing : Char) :
    ((item :: items).intersperse [',']).flatten ++ [closing] = item ++ tail closing items := by
  induction items generalizing item with
  | nil => simp [tail]
  | cons next items ih =>
    rw [List.intersperse_cons_cons]
    simp only [List.flatten_cons, List.append_assoc, ih, tail, List.cons_append, List.nil_append]

theorem bracketed_nil (opening closing : Char) : bracketed opening closing [] = [opening, closing] :=
  rfl

theorem bracketed_cons (opening closing : Char) (item : List Char) (items : List (List Char)) :
    bracketed opening closing (item :: items) = opening :: (item ++ tail closing items) := by
  rw [bracketed, List.cons_append, flatten_intersperse_cons]

end ObjectGateway.Json
