import ObjectGateway.Proofs.Path
import ObjectGateway.Proofs.Text.LetterCase
import ObjectGateway.Request
/-!
# Requests from their wire form

A wire form is read as a request when its method is one of the known names in any case, its path
is right and, for the methods that name two places, so is its second path. Of several faults the
first one in this order is reported. A request is read again from its own wire form.
-/
namespace ObjectGateway

open LetterCase (AnyCase)

-- ---------------------------------------------------------------------------
-- Methods by name
-- ---------------------------------------------------------------------------

namespace Method

variable {m : Method} {text : String}

theorem mem_all (m : Method) : m ∈ all := by
  cases m <;> decide

theorem names_differ : (all.map fun m => LetterCase.lower m.name).Nodup := by
  decide

theorem ofName?_eq_some_iff : ofName? text = some m ↔ AnyCase m.name text := by
  rw [ofName?, LetterCase.find?_same_eq_some_iff names_differ, and_iff_right (mem_all m)]

theorem ofName?_eq_none_iff : ofName? text = none ↔ ∀ m : Method, ¬AnyCase m.name text := by
  rw [ofName?, LetterCase.find?_same_eq_none_iff]
  exact ⟨fun h m => h m (mem_all m), fun h m _ => h m⟩

theorem ofName?_name (m : Method) : ofName? m.name = some m :=
  ofName?_eq_some_iff.mpr (LetterCase.lower_eq_iff.mp rfl)

/-- The methods that name two places. -/
def namesTwo (m : Method) : Prop :=
  m = rename ∨ m = link ∨ m = symlink

end Method

namespace Request

variable {method : Method} {path : FsPath} {second : Except FsError FsPath} {r : Request}
  {cause : FsError}

/-- A request is made of its method and its path, and of its second path if it has one. -/
theorem build_eq_ok_iff : build method path second = .ok r ↔
    r.method = method ∧ r.path = path ∧ ∀ q, r.second? = some q → second = .ok q := by
  constructor
  · intro h
    cases method with
    | rename | link | symlink =>
      cases second with
      | ok other =>
        cases h
        exact ⟨rfl, rfl, fun _ hq => congrArg Except.ok (Option.some.inj hq)⟩
      | error cause => cases h
    | _ =>
      cases h
      exact ⟨rfl, rfl, fun _ hq => nomatch hq⟩
  · rintro ⟨rfl, rfl, hsecond⟩
    cases r with
    | rename | link | symlink =>
      rw [hsecond _ rfl]
      rfl
    | _ => rfl

/-- What can be wrong when method and path are right is the second path. -/
theorem build_eq_error_iff :
    build method path second = .error cause ↔ method.namesTwo ∧ second = .error cause := by
  unfold Method.namesTwo
  cases method with
  | rename | link | symlink => cases second <;> simp [build, Except.map]
  | _ => simp [build]

theorem second?_isSome_iff (r : Request) : r.second?.isSome = true ↔ r.method.namesTwo := by
  unfold Method.namesTwo
  cases r <;> simp [second?, Request.method]

-- ---------------------------------------------------------------------------
-- Wire forms
-- ---------------------------------------------------------------------------

/-- What a wire form is read as. Where several things are wrong with it, the first of them
counts: the method, the path, the second path. -/
inductive Wired (name path : String) (target : Option String) : Except FsError Request → Prop
  | unknown (h : ∀ m : Method, ¬AnyCase m.name name) :
      Wired name path target (.error (.unsupported path (Method.unknownMessage name)))
  | misplaced {m : Method} {cause : FsError} (hm : AnyCase m.name name)
      (hp : FsPath.parse path = .error cause) : Wired name path target (.error cause)
  | missing {m : Method} {p : FsPath} (hm : AnyCase m.name name) (hp : FsPath.parse path = .ok p)
      (htwo : m.namesTwo) (htarget : target = none) :
      Wired name path target (.error (.invalid path "missing target path"))
  | mistargeted {m : Method} {p : FsPath} {raw : String} {cause : FsError}
      (hm : AnyCase m.name name) (hp : FsPath.parse path = .ok p) (htwo : m.namesTwo)
      (htarget : target = some raw) (hq : FsPath.parse raw = .error cause) :
      Wired name path target (.error cause)
  /-- The target is not looked at. -/
  | one {r : Request} (hm : AnyCase r.method.name name) (hp : FsPath.parse path = .ok r.path)
      (hone : r.second? = none) : Wired name path target (.ok r)
  | two {r : Request} {q : FsPath} {raw : String} (hm : AnyCase r.method.name name)
      (hp : FsPath.parse path = .ok r.path) (htwo : r.second? = some q)
      (htarget : target = some raw) (hq : FsPath.parse raw = .ok q) : Wired name path target (.ok r)

variable {name raw : String} {path : String} {target : Option String} {m : Method}
  {p : FsPath} {result : Except FsError Request}

def secondPath (path : String) : Option String → Except FsError FsPath
  | none => .error (.invalid path "missing target path")
  | some raw => FsPath.parse raw

theorem ofWire_unknown (h : Method.ofName? name = none) :
    ofWire name path target = .error (.unsupported path (Method.unknownMessage name)) := by
  unfold ofWire
  rw [h]
  rfl

theorem ofWire_misplaced (hm : Method.ofName? name = some m)
    (hp : FsPath.parse path = .error cause) : ofWire name path target = .error cause := by
  unfold ofWire
  rw [hm, hp]
  rfl

theorem ofWire_placed (hm : Method.ofName? name = some m) (hp : FsPath.parse path = .ok p) :
    ofWire name path target = build m p (secondPath path target) := by
  unfold ofWire
  rw [hm, hp]
  cases target <;> rfl

theorem wired_ofWire (name path : String) (target : Option String) :
    Wired name path target (ofWire name path target) := by
  cases hname : Method.ofName? name with
  | none => exact ofWire_unknown hname ▸ .unknown (Method.ofName?_eq_none_iff.mp hname)
  | some m =>
    have hm := Method.ofName?_eq_some_iff.mp hname
    cases hp : FsPath.parse path with
    | error cause => exact ofWire_misplaced hname hp ▸ .misplaced hm hp
    | ok p =>
      rw [ofWire_placed hname hp]
      cases hbuild : build m p (secondPath path target) with
      | error cause =>
        obtain ⟨htwo, hsecond⟩ := build_eq_error_iff.mp hbuild
        cases target with
        | none =>
          cases hsecond
          exact .missing hm hp htwo rfl
        | some raw => exact .mistargeted hm hp htwo rfl hsecond
      | ok r =>
        obtain ⟨rfl, rfl, hsecond⟩ := build_eq_ok_iff.mp hbuild
        cases hq : r.second? with
        | none => exact .one hm hp hq
        | some q =>
          cases target with
          | none => cases hsecond q hq
          | some raw => exact .two hm hp hq rfl (hsecond q hq)

theorem Wired.ofWire_eq (h : Wired name path target result) :
    ofWire name path target = result := by
  cases h with
  | unknown h => exact ofWire_unknown (Method.ofName?_eq_none_iff.mpr h)
  | misplaced hm hp => exact ofWire_misplaced (Method.ofName?_eq_some_iff.mpr hm) hp
  | missing hm hp htwo htarget =>
    rw [ofWire_placed (Method.ofName?_eq_some_iff.mpr hm) hp]
    exact build_eq_error_iff.mpr ⟨htwo, htarget ▸ rfl⟩
  | mistargeted hm hp htwo htarget hq =>
    rw [ofWire_placed (Method.ofName?_eq_some_iff.mpr hm) hp]
    exact build_eq_error_iff.mpr ⟨htwo, htarget ▸ hq⟩
  | one hm hp hone =>
    rw [ofWire_placed (Method.ofName?_eq_some_iff.mpr hm) hp]
    exact build_eq_ok_iff.mpr ⟨rfl, rfl, fun q hq => nomatch hone.symm.trans hq⟩
  | two hm hp htwo htarget hq =>
    rw [ofWire_placed (Method.ofName?_eq_some_iff.mpr hm) hp]
    refine build_eq_ok_iff.mpr ⟨rfl, rfl, fun q' hq' => ?_⟩
    obtain rfl := Option.some.inj (htwo.symm.trans hq')
    exact htarget ▸ hq

theorem ofWire_iff_wired : ofWire name path target = result ↔ Wired name path target result :=
  ⟨fun h => h ▸ wired_ofWire name path target, fun h => h.ofWire_eq⟩

/-- A request is of the method that was named. -/
theorem method_of_ofWire {r : Request} (h : ofWire name path target = .ok r) :
    Method.ofName? name = some r.method := by
  cases ofWire_iff_wired.mp h with
  | one hm => exact Method.ofName?_eq_some_iff.mpr hm
  | two hm => exact Method.ofName?_eq_some_iff.mpr hm

/-- All paths of a request that was read have segments. -/
theorem Wired.each {r : Request} (h : Wired name path target (.ok r)) :
    r.path.Each FsPath.IsSegment ∧ ∀ q, r.second? = some q → q.Each FsPath.IsSegment := by
  cases h with
  | one hm hp hone => exact ⟨FsPath.each_of_parse hp, fun q hq => nomatch hone.symm.trans hq⟩
  | two hm hp htwo htarget hq =>
    refine ⟨FsPath.each_of_parse hp, fun q' hq' => ?_⟩
    obtain rfl := Option.some.inj (htwo.symm.trans hq')
    exact FsPath.each_of_parse hq

/-- A request acts on a path with segments. -/
theorem each_of_ofWire {r : Request} (h : ofWire name path target = .ok r) :
    r.path.Each FsPath.IsSegment :=
  (ofWire_iff_wired.mp h).each.1

/-- A request whose paths have segments is read from its own texts. -/
theorem wired_text {r : Request} (hpath : r.path.Each FsPath.IsSegment)
    (hsecond : ∀ q, r.second? = some q → q.Each FsPath.IsSegment) :
    Wired r.method.name r.path.text (r.second?.map FsPath.text) (.ok r) := by
  have hm : AnyCase r.method.name r.method.name := LetterCase.lower_eq_iff.mp rfl
  cases hq : r.second? with
  | none => exact .one hm (FsPath.parse_text hpath) hq
  | some q => exact .two hm (FsPath.parse_text hpath) hq rfl (FsPath.parse_text (hsecond q hq))

/-- A wire form is read just when its method is known, its path is right and, for a method that
names two places, so is its second path. -/
theorem exists_ofWire_iff : (∃ r, ofWire name path target = .ok r) ↔
    ∃ m : Method, AnyCase m.name name ∧ (∃ p, FsPath.parse path = .ok p) ∧
      (m.namesTwo → ∃ raw q, target = some raw ∧ FsPath.parse raw = .ok q) := by
  constructor
  · rintro ⟨r, h⟩
    cases ofWire_iff_wired.mp h with
    | one hm hp hone =>
      refine ⟨_, hm, ⟨_, hp⟩, fun htwo => ?_⟩
      rw [← second?_isSome_iff, hone] at htwo
      cases htwo
    | two hm hp htwo htarget hq => exact ⟨_, hm, ⟨_, hp⟩, fun _ => ⟨_, _, htarget, hq⟩⟩
  · rintro ⟨m, hm, ⟨p, hp⟩, htarget⟩
    rw [ofWire_placed (Method.ofName?_eq_some_iff.mpr hm) hp]
    cases hbuild : build m p (secondPath path target) with
    | ok r => exact ⟨r, rfl⟩
    | error cause =>
      obtain ⟨htwo, hsecond⟩ := build_eq_error_iff.mp hbuild
      obtain ⟨raw, q, rfl, hq⟩ := htarget htwo
      cases hq.symm.trans hsecond

/-- Wire forms are read as the methods and the paths in them say. What was read is read again
from the names and the texts that it is written with. -/
theorem wire_exact (name path : String) (target : Option String) :
    ((∃ r, ofWire name path target = .ok r) ↔
      ∃ m : Method, AnyCase m.name name ∧ (∃ p, FsPath.parse path = .ok p) ∧
        (m.namesTwo → ∃ raw q, target = some raw ∧ FsPath.parse raw = .ok q)) ∧
    (∀ result, ofWire name path target = result ↔ Wired name path target result) ∧
    ∀ r, ofWire name path target = .ok r →
      ofWire r.method.name r.path.text (r.second?.map FsPath.text) = .ok r ∧
        r.path.Each FsPath.IsSegment ∧ ∀ q, r.second? = some q → q.Each FsPath.IsSegment := by
  refine ⟨exists_ofWire_iff, fun _ => ofWire_iff_wired, fun r h => ?_⟩
  obtain ⟨hpath, hsecond⟩ := (ofWire_iff_wired.mp h).each
  exact ⟨(wired_text hpath hsecond).ofWire_eq, hpath, hsecond⟩

theorem wire_exact_rename :
    ofWire "rENAME" "b/o/" (some "/c") = .ok (.rename (.object "b" "o") (.bucket "c")) ∧
      ofWire "Rename" "/b/o" (some "/c") = .ok (.rename (.object "b" "o") (.bucket "c")) := by
  have hread : ofWire "rENAME" "b/o/" (some "/c") =
      .ok (.rename (.object "b" "o") (.bucket "c")) := by decide
  exact ⟨hread, ((wire_exact "rENAME" "b/o/" (some "/c")).2.2 _ hread).1⟩

end Request
end ObjectGateway
