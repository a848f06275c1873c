import ObjectGateway.Proofs.Path
/-!
# The grammar of paths

Between a slash in front and one behind, a path is nothing, one segment, or two with a slash
between them. Every other text is refused, for having too many segments or an empty one.
-/
namespace ObjectGateway

-- ---------------------------------------------------------------------------
-- Pieces
-- ---------------------------------------------------------------------------

namespace Segments

/-- The text is these pieces, none of which holds the separator, with one separator between
any two neighbours. -/
structure Pieces (sep : Char) (cs : List Char) (pieces : List (List Char)) : Prop where
  some : pieces ≠ []
  clean : ∀ piece ∈ pieces, sep ∉ piece
  joined : [sep].intercalate pieces = cs

variable {sep : Char} {cs : List Char} {pieces : List (List Char)}

theorem intercalate_split (sep : Char) (cs : List Char) :
    [sep].intercalate (split sep cs) = cs := by
  induction cs with
  | nil => rfl
  | cons c cs ih =>
    unfold split
    cases hsplit : split sep cs with
    | nil => exact absurd hsplit (split_ne_nil sep cs)
    | cons first rest =>
      rw [hsplit] at ih
      split
      · rename_i hc
        rw [List.intercalate_cons_cons, ih, hc]
        rfl
      · cases rest with
        | nil =>
          rw [List.intercalate_singleton] at ih ⊢
          rw [ih]
        | cons next rest =>
          rw [List.intercalate_cons_cons] at ih ⊢
          rw [← ih]
          rfl

theorem pieces_split (sep : Char) (cs : List Char) : Pieces sep cs (split sep cs) :=
  ⟨split_ne_nil sep cs, fun _ hpiece => sep_notMem_of_mem_split hpiece, intercalate_split sep cs⟩

/-- There is only one way to cut a text into such pieces. -/
theorem Pieces.eq_split (h : Pieces sep cs pieces) : pieces = split sep cs := by
  induction pieces generalizing cs with
  | nil => exact absurd rfl h.some
  | cons first rest ih =>
    have hfirst : sep ∉ first := h.clean first List.mem_cons_self
    cases rest with
    | nil =>
      have hjoined := h.joined
      rw [List.intercalate_singleton] at hjoined
      rw [← hjoined, split_of_notMem sep first hfirst]
    | cons next rest =>
      have hjoined := h.joined
      rw [List.intercalate_cons_cons, List.append_assoc, List.singleton_append] at hjoined
      have hrest : Pieces sep ([sep].intercalate (next :: rest)) (next :: rest) :=
        ⟨List.cons_ne_nil _ _, fun piece hpiece => h.clean piece (List.mem_cons_of_mem _ hpiece),
          rfl⟩
      rw [← hjoined, split_append sep first _ hfirst, ← ih hrest]

end Segments

namespace FsPath

variable {raw t b o : String} {p : FsPath} {cs inner : List Char}

-- ---------------------------------------------------------------------------
-- Slashes in front and behind
-- ---------------------------------------------------------------------------

/-- What is left of a text without one slash in front, if it begins with one, and then without
one behind, if it still ends with one. -/
def Trims (cs inner : List Char) : Prop :=
  ∃ rest, (cs = '/' :: rest ∨ cs = rest ∧ cs.head? ≠ some '/') ∧
    (rest = inner ++ ['/'] ∨ rest = inner ∧ rest.getLast? ≠ some '/')

theorem dropLeading_of_head? (h : cs.head? ≠ some '/') : dropLeading cs = cs := by
  unfold dropLeading
  split
  · exact absurd rfl h
  · rfl

theorem Trims.eq (h : Trims cs inner) : inner = dropTrailing (dropLeading cs) := by
  obtain ⟨rest, hfront, hback⟩ := h
  have hrest : dropLeading cs = rest := by
    obtain rfl | ⟨rfl, hhead⟩ := hfront
    · rfl
    · exact dropLeading_of_head? hhead
  rw [hrest, dropTrailing]
  obtain rfl | ⟨rfl, hlast⟩ := hback
  · rw [if_pos List.getLast?_concat, List.dropLast_concat]
  · rw [if_neg hlast]

theorem trims_dropped (cs : List Char) : Trims cs (dropTrailing (dropLeading cs)) := by
  refine ⟨dropLeading cs, ?_, ?_⟩
  · unfold dropLeading
    split
    · exact .inl rfl
    · rename_i hhead
      refine .inr ⟨rfl, fun hslash => ?_⟩
      obtain ⟨rest, rfl⟩ := List.head?_eq_some_iff.mp hslash
      exact hhead rest rfl
  · unfold dropTrailing
    split
    · rename_i hlast
      obtain ⟨start, hstart⟩ := List.getLast?_eq_some_iff.mp hlast
      rw [hstart, List.dropLast_concat]
      exact .inl rfl
    · exact .inr ⟨rfl, ‹_›⟩

-- ---------------------------------------------------------------------------
-- What a text reads as
-- ---------------------------------------------------------------------------

/-- Between its slashes the text has more than two segments that are not empty. -/
def Deep (t : String) : Prop :=
  ∃ pieces, Segments.Pieces '/' t.toList pieces ∧ 2 < (pieces.filter (!·.isEmpty)).length

theorem deep_iff :
    Deep t ↔ 2 < ((Segments.split '/' t.toList).filter (!·.isEmpty)).length := by
  constructor
  · rintro ⟨pieces, hpieces, hdeep⟩
    rwa [← hpieces.eq_split]
  · exact fun hdeep => ⟨_, Segments.pieces_split _ _, hdeep⟩

/-- What a text reads as whose part between the slashes is given. -/
inductive Parsed (raw : String) : String → Except FsError FsPath → Prop
  | root : Parsed raw "" (.ok .root)
  | bucket {b : String} (h : IsSegment b) : Parsed raw b (.ok (.bucket b))
  | object {b o : String} (hb : IsSegment b) (ho : IsSegment o) :
      Parsed raw (b ++ "/" ++ o) (.ok (.object b o))
  | deep {t : String} (h : Deep t) :
      Parsed raw t (.error (.unsupported raw "only one level of directories is supported"))
  /-- All that is left. -/
  | hollow {t : String} (hsome : t ≠ "") (hbucket : ¬IsSegment t)
      (hobject : ∀ b o, IsSegment b → IsSegment o → t ≠ b ++ "/" ++ o) (hdeep : ¬Deep t) :
      Parsed raw t (.error (.invalid raw "empty path segment"))

theorem split_segment (h : IsSegment b) : Segments.split '/' b.toList = [b.toList] :=
  Segments.split_of_notMem _ _ h.2

theorem split_object (hb : IsSegment b) (ho : IsSegment o) :
    Segments.split '/' (b ++ "/" ++ o).toList = [b.toList, o.toList] := by
  have htext : (b ++ "/" ++ o).toList = b.toList ++ '/' :: o.toList := by simp
  rw [htext, Segments.split_append _ _ _ hb.2, split_segment ho]

theorem hollow_of_split {t : String} (hsome : t ≠ "") (hdeep : ¬Deep t)
    (hone : ∀ b, Segments.split '/' t.toList ≠ [b])
    (htwo : ∀ b o, b ≠ [] → o ≠ [] → Segments.split '/' t.toList ≠ [b, o]) :
    Parsed raw t (.error (.invalid raw "empty path segment")) := by
  refine .hollow hsome (fun hsegment => hone _ (split_segment hsegment)) ?_ hdeep
  rintro b o hb ho rfl
  have hb' : b.toList ≠ [] := by simpa using hb.1
  have ho' : o.toList ≠ [] := by simpa using ho.1
  exact htwo _ _ hb' ho' (split_object hb ho)

/-- A text is read by what is between its slashes. -/
theorem parsed_parse (h : Trims raw.toList t.toList) : Parsed raw t (parse raw) := by
  unfold parse
  simp only [← h.eq]
  split
  · rename_i hempty
    obtain rfl : t = "" := by simpa using hempty
    exact .root
  rename_i hsome
  have hsome : t ≠ "" := by simpa using hsome
  split
  · exact .deep (deep_iff.mpr ‹_›)
  rename_i hshallow
  have hdeep : ¬Deep t := fun h => hshallow (deep_iff.mp h)
  have hpieces := Segments.pieces_split '/' t.toList
  split
  · -- One piece is the whole text, which is not empty.
    rename_i b hsplit
    rw [hsplit] at hpieces
    have hjoined : b = t.toList := by simpa using hpieces.joined
    rw [hjoined, String.ofList_toList]
    exact .bucket ⟨hsome, hjoined ▸ hpieces.clean b (by simp)⟩
  · rename_i b o hsplit
    split
    · rename_i hempty
      refine hollow_of_split hsome hdeep (by simp [hsplit]) ?_
      rintro b' o' hb ho hsplit'
      rw [hsplit] at hsplit'
      cases hsplit'
      simp [hb, ho] at hempty
    · rename_i hfull
      simp only [List.isEmpty_iff, not_or] at hfull
      rw [hsplit] at hpieces
      have hjoined : t = String.ofList b ++ "/" ++ String.ofList o := by
        apply String.toList_inj.mp
        rw [← hpieces.joined]
        simp
      rw [hjoined]
      exact .object (isSegment_ofList hfull.1 (hpieces.clean b (by simp)))
        (isSegment_ofList hfull.2 (hpieces.clean o (by simp)))
  · rename_i hone htwo
    exact hollow_of_split hsome hdeep hone fun b o _ _ => htwo b o

/-- No text reads in two ways. -/
theorem Parsed.parse_eq {r : Except FsError FsPath} (hp : Parsed raw t r)
    (h : Trims raw.toList t.toList) : parse raw = r := by
  cases hp with
  | root =>
    unfold parse
    simp only [← h.eq]
    rfl
  | bucket hb =>
    have hsome : t.toList ≠ [] := by simpa using hb.1
    unfold parse
    simp only [← h.eq, split_segment hb]
    simp [hsome]
  | object hb ho =>
    rename_i b o
    have hb' : b.toList ≠ [] := by simpa using hb.1
    have ho' : o.toList ≠ [] := by simpa using ho.1
    unfold parse
    simp only [← h.eq, split_object hb ho]
    simp [hb', ho']
  | deep hdeep =>
    have hdeep' := deep_iff.mp hdeep
    have hsome : t.toList ≠ [] := by
      intro hnil
      rw [hnil] at hdeep'
      simp [Segments.split] at hdeep'
    unfold parse
    simp only [← h.eq]
    simp [hsome, hdeep']
  | hollow hsome hbucket hobject hdeep =>
    have hread := parsed_parse h
    generalize parse raw = result at hread
    cases hread with
    | root => exact absurd rfl hsome
    | bucket hb => exact absurd hb hbucket
    | object hb ho => exact absurd rfl (hobject _ _ hb ho)
    | deep h => exact absurd h hdeep
    | hollow => rfl

theorem parse_iff_parsed {r : Except FsError FsPath} (h : Trims raw.toList t.toList) :
    parse raw = r ↔ Parsed raw t r :=
  ⟨fun hr => hr ▸ parsed_parse h, fun hp => hp.parse_eq h⟩

-- ---------------------------------------------------------------------------
-- Reading what was written
-- ---------------------------------------------------------------------------

/-- The text of a path without its slash in front. -/
def bare : FsPath → String
  | root => ""
  | bucket b => b
  | object b o => b ++ "/" ++ o

theorem text_eq_bare (p : FsPath) : p.text = "/" ++ p.bare := by
  cases p with
  | root => rfl
  | bucket b => rfl
  | object b o => simp only [text, bare, String.append_assoc]

theorem parsed_bare (h : p.Each IsSegment) : Parsed raw p.bare (.ok p) := by
  cases p with
  | root => exact .root
  | bucket b => exact .bucket h
  | object b o => exact .object h.1 h.2

theorem IsSegment.head?_append (h : IsSegment b) (tail : List Char) :
    (b.toList ++ tail).head? ≠ some '/' := by
  have hne : b.toList ≠ [] := by simpa using h.1
  rw [List.head?_append, List.head?_eq_some_head hne, Option.some_or]
  intro hhead
  exact h.2 (Option.some.inj hhead ▸ List.head_mem hne)

theorem IsSegment.getLast?_append (h : IsSegment b) (lead : List Char) :
    (lead ++ b.toList).getLast? ≠ some '/' := by
  have hne : b.toList ≠ [] := by simpa using h.1
  rw [List.getLast?_append, List.getLast?_eq_some_getLast hne, Option.some_or]
  intro hlast
  exact h.2 (Option.some.inj hlast ▸ List.getLast_mem hne)

theorem head?_bare (h : p.Each IsSegment) : p.bare.toList.head? ≠ some '/' := by
  cases p with
  | root => simp [bare]
  | bucket b => simpa [bare] using h.head?_append []
  | object b o => simpa [bare] using h.1.head?_append ('/' :: o.toList)

theorem getLast?_bare (h : p.Each IsSegment) : p.bare.toList.getLast? ≠ some '/' := by
  cases p with
  | root => simp [bare]
  | bucket b => simpa [bare] using h.getLast?_append []
  | object b o => simpa [bare] using h.2.getLast?_append (b.toList ++ ['/'])

theorem parse_bare (h : p.Each IsSegment) : parse p.bare = .ok p :=
  (parsed_bare h).parse_eq
    ⟨p.bare.toList, .inr ⟨rfl, head?_bare h⟩, .inr ⟨rfl, getLast?_bare h⟩⟩

theorem parse_text_append (h : p.Each IsSegment) : parse (p.text ++ "/") = .ok p := by
  have htext : (p.text ++ "/").toList = '/' :: (p.bare.toList ++ ['/']) := by
    simp [text_eq_bare]
  exact (parsed_bare h).parse_eq ⟨p.bare.toList ++ ['/'], .inl htext, .inl rfl⟩

-- ---------------------------------------------------------------------------
-- The grammar
-- ---------------------------------------------------------------------------

/-- What a text reads as, by what is left of it between its slashes. -/
structure Grammar (raw t : String) : Prop where
  root : parse raw = .ok .root ↔ t = ""
  bucket : ∀ b, parse raw = .ok (.bucket b) ↔ b = t ∧ IsSegment t
  object : ∀ b o, parse raw = .ok (.object b o) ↔ t = b ++ "/" ++ o ∧ IsSegment b ∧ IsSegment o
  unsupported : ∀ path reason, parse raw = .error (.unsupported path reason) ↔
    path = raw ∧ reason = "only one level of directories is supported" ∧ Deep t
  /-- All that is left. -/
  invalid : ∀ path reason, parse raw = .error (.invalid path reason) ↔
    path = raw ∧ reason = "empty path segment" ∧ t ≠ "" ∧ ¬IsSegment t ∧
      (∀ b o, IsSegment b → IsSegment o → t ≠ b ++ "/" ++ o) ∧ ¬Deep t
  /-- There is no third way to refuse a text. -/
  refused : ∀ fault, parse raw = .error fault →
    ∃ path reason, fault = .unsupported path reason ∨ fault = .invalid path reason

theorem Trims.grammar (h : Trims raw.toList t.toList) : Grammar raw t where
  root := by
    rw [parse_iff_parsed h]
    constructor
    · intro hp
      cases hp
      rfl
    · rintro rfl
      exact .root
  bucket b := by
    rw [parse_iff_parsed h]
    constructor
    · intro hp
      cases hp with
      | bucket hb => exact ⟨rfl, hb⟩
    · rintro ⟨rfl, hb⟩
      exact .bucket hb
  object b o := by
    rw [parse_iff_parsed h]
    constructor
    · intro hp
      cases hp with
      | object hb ho => exact ⟨rfl, hb, ho⟩
    · rintro ⟨rfl, hb, ho⟩
      exact .object hb ho
  unsupported path reason := by
    rw [parse_iff_parsed h]
    constructor
    · intro hp
      cases hp with
      | deep hdeep => exact ⟨rfl, rfl, hdeep⟩
    · rintro ⟨rfl, rfl, hdeep⟩
      exact .deep hdeep
  invalid path reason := by
    rw [parse_iff_parsed h]
    constructor
    · intro hp
      cases hp with
      | hollow hsome hbucket hobject hdeep => exact ⟨rfl, rfl, hsome, hbucket, hobject, hdeep⟩
    · rintro ⟨rfl, rfl, hsome, hbucket, hobject, hdeep⟩
      exact .hollow hsome hbucket hobject hdeep
  refused fault := by
    rw [parse_iff_parsed h]
    intro hp
    cases hp with
    | deep => exact ⟨_, _, .inl rfl⟩
    | hollow => exact ⟨_, _, .inr rfl⟩

/-- Every text is read by the one text that is left of it between its slashes. A path that was
read is read again from its own text, with or without the slash in front of it, and with one
more behind. -/
theorem parse_exact (raw : String) :
    (∃ t : String, Trims raw.toList t.toList ∧
      (∀ t' : String, Trims raw.toList t'.toList → t' = t) ∧ Grammar raw t) ∧
    ∀ p, parse raw = .ok p →
      parse p.text = .ok p ∧ parse (p.text ++ "/") = .ok p ∧
        ∃ rest, p.text = "/" ++ rest ∧ parse rest = .ok p := by
  constructor
  · have htrims : Trims raw.toList
        (String.ofList (dropTrailing (dropLeading raw.toList))).toList := by
      rw [String.toList_ofList]
      exact trims_dropped _
    refine ⟨_, htrims, fun t' h' => ?_, htrims.grammar⟩
    rw [← h'.eq, String.ofList_toList]
  · intro p hp
    have heach := each_of_parse hp
    exact ⟨parse_text heach, parse_text_append heach, p.bare, text_eq_bare p, parse_bare heach⟩

theorem parse_exact_object : parse "/b/o/" = .ok (.object "b" "o") ∧
    parse (FsPath.object "b" "o").text = .ok (.object "b" "o") := by
  have hread : parse "/b/o/" = .ok (.object "b" "o") := by decide
  exact ⟨hread, ((parse_exact "/b/o/").2 _ hread).1⟩

end FsPath
end ObjectGateway
