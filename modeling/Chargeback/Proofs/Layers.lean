import Chargeback.Proofs.TextMaps
import Chargeback.Settings.Layer

/-!
# What layers leave in their places

A document of settings is seen through the values at the ends of paths of names. A value that is laid
on top of a document changes, at the end of a path, exactly what it has there itself: what it has
there takes the place of what was there, and where it has nothing the old value stays, at whatever
depth the two part. Both hold only for documents in which every object lists its names in order and
for names that are spelled as they are kept, so both are carried along.
-/

namespace Chargeback

open Setting

/-! ## Values at the ends of paths -/

namespace Json

/-- The value at the end of a path of names. -/
def at? : List String → Json → Option Json
  | [], j => some j
  | name :: rest, .obj fields => (fields.lookup name).bind (at? rest)
  | _ :: _, _ => none

/-- Whether a path leads through objects, as far as it leads, and whatever stands at its end is as
asked for. -/
def leadsTo (fits : Json → Bool) : List String → Json → Bool
  | [], j => fits j
  | name :: rest, .obj fields => ((fields.lookup name).map (leadsTo fits rest)).getD true
  | _ :: _, _ => false

/-- Every object that a path leads to lists its names in order. -/
def Ordered (j : Json) : Prop :=
  ∀ path fields, at? path j = some (.obj fields) → fields.Pairwise fun a b => a.1 < b.1

/-- Every object that a path leads to spells its names as they are kept. -/
def Folded (j : Json) : Prop :=
  ∀ path fields, at? path j = some (.obj fields) → ∀ field ∈ fields, foldName field.1 = field.1

/-- Whether a value is an object. -/
def isObject : Json → Bool
  | .obj _ => true
  | _ => false

theorem bind_at?_cons (name : String) (path : List String) (old : Option Json) :
    old.bind (at? (name :: path)) = ((fieldsOf old).lookup name).bind (at? path) := by
  cases old with
  | none => rfl
  | some j => cases j <;> rfl

theorem at?_of_lookup {fields : List (String × Json)} {name : String} {value : Json}
    (h : fields.lookup name = some value) (path : List String) :
    at? (name :: path) (.obj fields) = at? path value := by
  show (fields.lookup name).bind (at? path) = _
  rw [h]
  rfl

theorem ordered_of_isObject_eq_false {j : Json} (h : j.isObject = false) : j.Ordered := by
  rintro (_ | ⟨name, path⟩) fields hat
  · obtain rfl : j = .obj fields := Option.some.inj hat
    cases h
  · cases j with
    | obj fields => cases h
    | _ => cases hat

theorem ordered_obj_iff {fields : List (String × Json)} :
    Ordered (.obj fields) ↔ (fields.Pairwise fun a b => a.1 < b.1) ∧
      ∀ name value, fields.lookup name = some value → value.Ordered := by
  constructor
  · intro h
    refine ⟨h [] fields rfl, fun name value hvalue path inner hinner => ?_⟩
    exact h (name :: path) inner ((at?_of_lookup hvalue path).trans hinner)
  · rintro ⟨hfields, hvalues⟩ (_ | ⟨name, path⟩) inner hinner
    · obtain rfl : fields = inner := Json.obj.inj (Option.some.inj hinner)
      exact hfields
    · obtain ⟨value, hvalue, hat⟩ := Option.bind_eq_some_iff.mp hinner
      exact hvalues name value hvalue path inner hat

theorem ordered_nil : Ordered (.obj []) :=
  ordered_obj_iff.mpr ⟨.nil, fun name value hvalue => by cases hvalue⟩

end Json

open Json

/-! ## Order -/

variable {old : Option Json}

theorem ordered_fieldsOf (h : ∀ j ∈ old, Ordered j) : Ordered (.obj (fieldsOf old)) := by
  cases old with
  | none => exact ordered_nil
  | some j =>
    cases j with
    | obj fields => exact h _ rfl
    | _ => exact ordered_nil

theorem ordered_alterEntries {base : List (String × Json)} (hbase : Ordered (.obj base))
    (name : String) {f : Option Json → Json}
    (hf : ∀ old, (∀ j ∈ old, Ordered j) → Ordered (f old)) :
    Ordered (.obj (TextMap.alterEntries name f base)) := by
  obtain ⟨hsorted, hvalues⟩ := ordered_obj_iff.mp hbase
  refine ordered_obj_iff.mpr ⟨TextMap.pairwise_alterEntries name f hsorted, ?_⟩
  intro other value hvalue
  rw [TextMap.lookup_alterEntries name other f hsorted] at hvalue
  split at hvalue
  · rw [← Option.some.inj hvalue]
    exact hf _ fun j hj => hvalues name j hj
  · exact hvalues other value hvalue

mutual

theorem ordered_lay : ∀ (value : Json) {old : Option Json}, (∀ j ∈ old, Ordered j) →
    Ordered (lay old value)
  | .obj [], old, h => by
    rw [lay]
    cases old with
    | none => exact ordered_nil
    | some j => exact h j rfl
  | .obj (field :: rest), old, h => by
    rw [lay]
    exact ordered_layFields (field :: rest) (ordered_fieldsOf h)
  | .null, _, _ | .bool _, _, _ | .int _, _, _ | .float _, _, _ | .str _, _, _ | .arr _, _, _
  | .unusable, _, _ => ordered_of_isObject_eq_false rfl

theorem ordered_layFields : ∀ (fields : List (String × Json)) {base : List (String × Json)},
    Ordered (.obj base) → Ordered (.obj (layFields base fields))
  | [], _, h => by
    rw [layFields]
    exact h
  | (name, value) :: rest, _, h => by
    rw [layFields]
    exact ordered_layFields rest
      (ordered_alterEntries h (foldName name) fun _ hold => ordered_lay value hold)

end

theorem ordered_layAt (value : Json) (steps : List Step) (h : ∀ j ∈ old, Ordered j) :
    Ordered (layAt value steps old) := by
  induction steps generalizing old with
  | nil => exact ordered_lay value h
  | cons step rest ih =>
    cases step with
    | field name => exact ordered_alterEntries (ordered_fieldsOf h) _ fun _ hold => ih hold
    | item position => cases rest <;> exact ordered_of_isObject_eq_false rfl

theorem ordered_addLayer {settings : Json} (h : settings.Ordered) (layer : Layer) :
    (addLayer settings layer).Ordered := by
  unfold addLayer
  induction layer generalizing settings with
  | nil => exact h
  | cons entry rest ih =>
    refine ih (ordered_layAt entry.2 (readPath entry.1) fun j hj => ?_)
    rw [← Option.some.inj hj]
    exact h

/-! ## Values laid at a path -/

theorem at?_cons_layAt_field (value : Json) (f name : String) (steps : List Step)
    (path : List String) (h : ∀ j ∈ old, Ordered j) :
    at? (name :: path) (layAt value (.field f :: steps) old) =
      if name = foldName f then
        at? path (layAt value steps ((fieldsOf old).lookup name))
      else old.bind (at? (name :: path)) := by
  have hsorted := (ordered_obj_iff.mp (ordered_fieldsOf h)).1
  show ((TextMap.alterEntries (foldName f) (layAt value steps) (fieldsOf old)).lookup name).bind
    (at? path) = _
  rw [TextMap.lookup_alterEntries _ _ _ hsorted, bind_at?_cons]
  split
  · rename_i heq
    rw [heq]
    rfl
  · rfl

theorem ordered_lookup_fieldsOf (h : ∀ j ∈ old, Ordered j) (name : String) :
    ∀ j ∈ (fieldsOf old).lookup name, Ordered j :=
  fun j hj => (ordered_obj_iff.mp (ordered_fieldsOf h)).2 name j hj

theorem lay_of_isObject_eq_false {value : Json} (h : value.isObject = false) :
    lay old value = value := by
  cases value with
  | obj fields => cases h
  | _ => simp [lay]

/-- At the end of its path stands what was laid there. -/
theorem at?_layAt_self {value : Json} (hvalue : value.isObject = false) {path : List String}
    (hpath : ∀ name ∈ path, foldName name = name) (h : ∀ j ∈ old, Ordered j) :
    at? path (layAt value (path.map .field) old) = some value := by
  induction path generalizing old with
  | nil => exact congrArg some (lay_of_isObject_eq_false hvalue)
  | cons name path ih =>
    have hname : name = foldName name := (hpath name List.mem_cons_self).symm
    rw [List.map_cons, at?_cons_layAt_field value name name _ path h, if_pos hname]
    exact ih (fun n hn => hpath n (List.mem_cons_of_mem _ hn)) (ordered_lookup_fieldsOf h name)

/-- Whether some steps leave a path of names at one of these names. -/
def Setting.isApart : List Step → List String → Bool
  | .field f :: steps, name :: path => foldName f != name || isApart steps path
  | _, _ => false

theorem Setting.isApart_self {path : List String} (hpath : ∀ name ∈ path, foldName name = name) :
    isApart (path.map .field) path = false := by
  induction path with
  | nil => rfl
  | cons name path ih =>
    have hname := hpath name List.mem_cons_self
    have hrest := ih fun n hn => hpath n (List.mem_cons_of_mem _ hn)
    rw [List.map_cons, isApart, hrest, Bool.or_false, bne_eq_false_iff_eq]
    exact hname

/-- What is laid at the end of another path leaves alone what stands at the end of this one. -/
theorem at?_layAt_of_isApart (value : Json) {steps : List Step} {path : List String}
    (hapart : isApart steps path = true) (h : ∀ j ∈ old, Ordered j) :
    at? path (layAt value steps old) = old.bind (at? path) := by
  induction steps generalizing path old with
  | nil => cases hapart
  | cons step steps ih =>
    cases step with
    | item position => cases hapart
    | field f =>
      cases path with
      | nil => cases hapart
      | cons name path =>
        rw [isApart, Bool.or_eq_true, bne_iff_ne] at hapart
        rw [at?_cons_layAt_field value f name steps path h]
        split
        · rename_i heq
          rw [ih (hapart.resolve_left fun hne => hne heq.symm) (ordered_lookup_fieldsOf h name),
            bind_at?_cons]
        · rfl

/-- The value that a layer lays at the end of a path. -/
def Setting.entryAt? (path : List String) (layer : Layer) : Option Json :=
  (layer.find? fun entry => readPath entry.1 = path.map Step.field).map Prod.snd

/-- A layer of entries each of which leads to a path or is apart from it, and at most one leads there,
leaves at its end the value of that entry, or else what was there. -/
theorem at?_addLayer {layer : Layer} {path : List String}
    (hpath : ∀ name ∈ path, foldName name = name)
    (hentries : ∀ entry ∈ layer, (readPath entry.1 = path.map Step.field ∧
      entry.2.isObject = false) ∨ isApart (readPath entry.1) path = true)
    (hsingle : layer.Pairwise fun a b =>
      ¬ (readPath a.1 = path.map Step.field ∧ readPath b.1 = path.map Step.field))
    {settings : Json} (hsettings : settings.Ordered) :
    at? path (addLayer settings layer) = (entryAt? path layer).or (at? path settings) := by
  unfold addLayer entryAt?
  induction layer generalizing settings with
  | nil => rfl
  | cons entry rest ih =>
    obtain ⟨hhead, hrest⟩ := List.pairwise_cons.mp hsingle
    have hsome : ∀ j ∈ some settings, Ordered j := by
      intro j hj
      rwa [← Option.some.inj hj]
    have hstep := ih (fun e he => hentries e (List.mem_cons_of_mem _ he)) hrest
      (ordered_layAt entry.2 (readPath entry.1) hsome)
    rw [List.foldl_cons, hstep, List.find?_cons]
    rcases hentries entry List.mem_cons_self with ⟨hleads, hvalue⟩ | hapart
    · have hlast : rest.find? (fun e => readPath e.1 = path.map Step.field) = none := by
        rw [List.find?_eq_none]
        intro e he
        rw [decide_eq_true_eq]
        exact fun hlead => hhead e he ⟨hleads, hlead⟩
      rw [hlast, decide_eq_true hleads, hleads, at?_layAt_self hvalue hpath hsome]
      rfl
    · have hnot : ¬ readPath entry.1 = path.map Step.field := by
        intro heq
        rw [heq, isApart_self hpath] at hapart
        cases hapart
      rw [decide_eq_false hnot, at?_layAt_of_isApart entry.2 hapart hsome]
      rfl

/-! ## Documents laid as a whole -/

theorem lookup_layFields {fields : List (String × Json)}
    (hfields : fields.Pairwise fun a b => a.1 < b.1)
    (hnames : ∀ field ∈ fields, foldName field.1 = field.1) {base : List (String × Json)}
    (hbase : Ordered (.obj base)) (name : String) :
    (layFields base fields).lookup name =
      match fields.lookup name with
      | some value => some (lay (base.lookup name) value)
      | none => base.lookup name := by
  induction fields generalizing base with
  | nil => rw [layFields]; rfl
  | cons field rest ih =>
    obtain ⟨first, value⟩ := field
    obtain ⟨-, hrest⟩ := List.pairwise_cons.mp hfields
    have hname : foldName first = first := hnames _ List.mem_cons_self
    have hstep := ih hrest (fun f hf => hnames f (List.mem_cons_of_mem _ hf))
      (ordered_alterEntries hbase first fun _ hold => ordered_lay value hold)
    have hlookup := TextMap.lookup_alterEntries first name (fun old => lay old value)
      (ordered_obj_iff.mp hbase).1
    rw [layFields, hname, hstep, hlookup, TextMap.lookup_cons_eq_ite]
    by_cases heq : name = first
    · subst heq
      rw [TextMap.lookup_eq_none_of_head hfields, if_pos rfl, if_pos rfl]
    · rw [if_neg heq, if_neg heq]

theorem at?_cons_lay_obj (name : String) (path : List String) (fields : List (String × Json)) :
    at? (name :: path) (lay old (.obj fields)) =
      ((layFields (fieldsOf old) fields).lookup name).bind (at? path) := by
  cases fields with
  | nil =>
    rw [lay, layFields, ← bind_at?_cons]
    cases old <;> rfl
  | cons field rest => rw [lay]; rfl

theorem Json.Folded.of_lookup {fields : List (String × Json)} {name : String} {value : Json}
    (h : Folded (.obj fields)) (hvalue : fields.lookup name = some value) : value.Folded :=
  fun path inner hinner => h (name :: path) inner ((at?_of_lookup hvalue path).trans hinner)

/-- At the end of a path that leads through objects, a document that is laid on top of another leaves
what it has there itself, or else what was there. -/
theorem at?_lay {fits : Json → Bool} (hfits : ∀ j, fits j = true → j.isObject = false)
    {path : List String} {value : Json} (hpath : leadsTo fits path value = true)
    (hordered : value.Ordered) (hfolded : value.Folded) (h : ∀ j ∈ old, Ordered j) :
    at? path (lay old value) = (at? path value).or (old.bind (at? path)) := by
  induction path generalizing value old with
  | nil =>
    rw [lay_of_isObject_eq_false (hfits value hpath)]
    rfl
  | cons name path ih =>
    cases value with
    | obj fields =>
      obtain ⟨hsorted, hvalues⟩ := ordered_obj_iff.mp hordered
      rw [at?_cons_lay_obj, lookup_layFields hsorted (hfolded [] fields rfl) (ordered_fieldsOf h),
        bind_at?_cons]
      rw [leadsTo] at hpath
      cases hvalue : fields.lookup name with
      | none =>
        have hmissing : at? (name :: path) (.obj fields) = none := by
          show (fields.lookup name).bind (at? path) = none
          rw [hvalue]
          rfl
        rw [hmissing]
        rfl
      | some value =>
        rw [hvalue] at hpath
        rw [at?_of_lookup hvalue]
        exact ih hpath (hvalues name value hvalue) (hfolded.of_lookup hvalue)
          (ordered_lookup_fieldsOf h name)
    | _ => cases hpath

/-- A layer whose names are no paths is laid as one object. -/
theorem addLayer_obj {fields : List (String × Json)}
    (hnames : ∀ field ∈ fields, readPath field.1 = [.field field.1])
    (base : List (String × Json)) :
    addLayer (.obj base) fields = .obj (layFields base fields) := by
  unfold addLayer
  induction fields generalizing base with
  | nil => rw [layFields]; rfl
  | cons field rest ih =>
    rw [List.foldl_cons, hnames field List.mem_cons_self, layFields]
    exact ih (fun f hf => hnames f (List.mem_cons_of_mem _ hf)) _

/-! ## Normalized documents -/

theorem TextMap.exists_mem_of_get?_ofList {β : Type} {l : List (String × β)} {name : String}
    {value : β} (h : (ofList l).get? name = some value) : ∃ entry ∈ l, entry.2 = value := by
  suffices ∀ m : TextMap β,
      (l.foldl (fun m e => m.insert e.1 e.2) m).get? name = some value →
        m.get? name = some value ∨ ∃ entry ∈ l, entry.2 = value by
    exact (this empty h).resolve_left fun hempty => by cases hempty
  clear h
  induction l with
  | nil => exact fun _ h => .inl h
  | cons entry rest ih =>
    intro m h
    rcases ih _ h with hstep | ⟨e, he, hvalue⟩
    · have hstep : (m.alter entry.1 fun _ => entry.2).get? name = some value := hstep
      rw [get?_alter] at hstep
      split at hstep
      · exact .inr ⟨entry, List.mem_cons_self, Option.some.inj hstep⟩
      · exact .inl hstep
    · exact .inr ⟨e, List.mem_cons_of_mem _ he, hvalue⟩

mutual

theorem Json.ordered_normalize : ∀ j : Json, Ordered (normalize j)
  | .obj fields => by
    rw [normalize]
    refine ordered_obj_iff.mpr ⟨(TextMap.ofList (normalizeFields fields)).sorted, ?_⟩
    intro name value hvalue
    obtain ⟨entry, hentry, rfl⟩ := TextMap.exists_mem_of_get?_ofList hvalue
    exact ordered_normalizeFields fields entry hentry
  | .arr items => by
    rw [normalize]
    exact ordered_of_isObject_eq_false rfl
  | .null | .bool _ | .int _ | .float _ | .str _ | .unusable =>
    ordered_of_isObject_eq_false rfl

theorem Json.ordered_normalizeFields : ∀ (fields : List (String × Json)),
    ∀ entry ∈ normalizeFields fields, Ordered entry.2
  | [], entry, h => by cases h
  | (name, j) :: rest, entry, h => by
    rw [normalizeFields] at h
    rcases List.mem_cons.mp h with rfl | h
    · exact ordered_normalize j
    · exact ordered_normalizeFields rest entry h

end

end Chargeback
