import SortPath.Entity
import SortPath.Model.Alias
import SortPath.Text.Quoted
import SortPath.TypeExpr.Resolve

/-!
# Models

A `Model` declares the fields of a stored type with their annotations and the names under which they
are serialized. Its stored properties are the fields without a transient marker; its serialized
properties are those of them that are not excluded from serialization.

Results:
* `Model.ofFields` keeps the field names unique, the last declaration of a name winning.
* `Field.map_name_put`: a repeated name keeps its first place.
* `Model.mem_exposed_iff`: the serialized properties are those of the fields that are neither transient nor
  excluded.
-/
namespace SortPath

/-- What a declaration says about a field besides its type. -/
structure FieldOptions where
  generalAlias : Option String := none
  serializationAlias : Option String := none
  validationAlias : Option String := none
  /-- How firmly the aliases stand against a naming strategy; up to 1 they give way. -/
  aliasPriority : Option Int := none
  /-- Whether the field is left out of the serialized form. -/
  excluded : Bool := false
deriving DecidableEq, Repr, Inhabited

/-- The priority of the aliases, where any is set; 0 leaves it open. -/
def FieldOptions.priority? (o : FieldOptions) : Option Int :=
  if o.generalAlias.isSome || o.serializationAlias.isSome || o.validationAlias.isSome then
    some ((o.aliasPriority.filter (· ≠ 0)).getD 2)
  else none

structure Field where
  name : String
  type : TypeExpr
  /-- The options, where the declaration gives any. -/
  options? : Option FieldOptions := none
deriving Repr, Inhabited

namespace Field

def options (f : Field) : FieldOptions := f.options?.getD {}

/-- A name that begins with an underscore is no name of data. -/
def isPrivate (f : Field) : Bool := f.name.toList.head? = some '_'

/-- The name that stands for the configuration of a model. -/
def isConfiguration (f : Field) : Bool := f.name == "model_config"

/-- The markers on the way to the type of the field. -/
def markers (f : Field) : List Marker := f.type.markers

def isTransient (f : Field) : Bool := f.markers.contains .transient

def isAssociation (f : Field) : Bool := f.markers.contains .association

/-- How the value of the field is inlined, if it is. -/
def unwrapping? (f : Field) : Option Unwrapping :=
  (f.markers.findSome? Marker.unwrapping?).filter (·.enabled)

/-- The stored property of a field. -/
def property (f : Field) : Property TypeExpr where
  name := f.name
  type := f.type.resolve.1
  elementType := f.type.resolve.2
  isAssociation := f.isAssociation

/-- The general and the serialization alias after the naming strategy of the model has been applied. -/
def aliases (f : Field) (strategy? : Option NamingStrategy) : Option String × Option String :=
  let general? := f.options.generalAlias
  let serialization? := f.options.serializationAlias.or general?
  match strategy? with
  | none => (general?, serialization?)
  | some s =>
    let name := s.apply f.name
    if f.options.priority?.all (· ≤ 1) then (some name, some name)
    else (general?.or (some name), serialization?.or (some name))

/-- The name under which a field is serialized; empty aliases do not count. -/
def externalName (f : Field) (strategy? : Option NamingStrategy) (byAlias : Bool) : String :=
  if byAlias then
    let (alias?, serialization?) := f.aliases strategy?
    ((serialization?.filter (· ≠ "")).or (alias?.filter (· ≠ ""))).getD f.name
  else f.name

end Field

/-- Fields by name: of a repeated name the first place, the last type and the last options given stay. -/
def Field.put (f : Field) : List Field → List Field
  | [] => [f]
  | g :: gs =>
    if g.name = f.name then { f with options? := f.options?.or g.options? } :: gs else g :: f.put gs

theorem Field.map_name_put (f : Field) (gs : List Field) :
    (f.put gs).map (·.name) =
      if f.name ∈ gs.map (·.name) then gs.map (·.name) else gs.map (·.name) ++ [f.name] := by
  induction gs with
  | nil => simp [put]
  | cons g gs ih =>
    by_cases h : g.name = f.name
    · simp [put, h]
    · simp only [put, h, if_false, List.map_cons, ih, List.mem_cons, Ne.symm h, false_or]
      split <;> simp

theorem Field.nodup_put {f : Field} {gs : List Field} (h : (gs.map (·.name)).Nodup) :
    ((f.put gs).map (·.name)).Nodup := by
  rw [map_name_put]
  split
  · exact h
  · next hk =>
    rw [List.nodup_append]
    refine ⟨h, by simp, fun a ha b hb => ?_⟩
    rw [List.mem_singleton.1 hb]
    exact fun e => hk (e ▸ ha)

/-- Why the declarations of a model are refused. -/
inductive DeclarationError
  | configurationField
  /-- A private name with options, which only fields have. -/
  | privateField (name : String)
  | emptyLiteral
deriving DecidableEq, Repr

/-- A name for the field that a private one was meant to be. -/
def publicName (name : String) : String :=
  match name.toList.dropWhile (· = '_') with
  | [] => "my_field"
  | cs => String.ofList cs

def DeclarationError.message : DeclarationError → String
  | configurationField =>
    "`model_config` cannot be used as a model field name. Use `model_config` for model configuration."
  | privateField name =>
    "Fields must not use names with leading underscores; e.g., use " ++ Text.quoted (publicName name) ++
      " instead of " ++ Text.quoted name ++ "."
  | emptyLiteral => "literal \"expected\" cannot be empty, obj=typing.Literal[()]"

structure Model where
  name : String
  /-- Where the model is declared. -/
  home : String
  strategy? : Option NamingStrategy
  fields : List Field
  nodup : (fields.map (·.name)).Nodup
deriving Repr

namespace Model

/-- The model with the given fields, added one after the other. Private ones and the configuration are
left out. -/
def ofFields (home name : String) (strategy? : Option NamingStrategy) (fields : List Field) : Model :=
  (fields.filter fun f => !f.isPrivate && !f.isConfiguration).foldl
    (fun m f => { m with fields := f.put m.fields, nodup := Field.nodup_put m.nodup })
    ⟨name, home, strategy?, [], List.nodup_nil⟩

/-- The model with the given declarations, where they are sound. A naming strategy is itself a
configuration, so that a field of that name is passed over. -/
def ofDeclarations (home name : String) (strategy? : Option NamingStrategy) (fields : List Field) :
    Except DeclarationError Model :=
  if strategy?.isNone && fields.any (·.isConfiguration) then .error .configurationField
  else match fields.find? fun f => f.isPrivate && f.options?.isSome with
    | some f => .error (.privateField f.name)
    | none =>
      let m := ofFields home name strategy? fields
      if m.fields.any (·.type.hasEmptyLiteral) then .error .emptyLiteral else .ok m

/-- The fields that are stored. -/
def stored (m : Model) : List Field := m.fields.filter fun f => !f.isTransient

def entity (m : Model) : Entity TypeExpr := ⟨.model m.name, m.stored.map Field.property⟩

/-- The models that the stored properties lead to. -/
def references (m : Model) : List String :=
  m.stored.filterMap fun f => f.property.actualType.model?

/-- A stored property with its name in the serialized form. -/
structure Exposed where
  name : String
  unwrapping? : Option Unwrapping
  property : Property TypeExpr

/-- The stored properties that are serialized, in order of declaration. -/
def exposed (m : Model) (byAlias : Bool) : List Exposed :=
  (m.stored.filter fun f => !f.options.excluded).map fun f =>
    ⟨f.externalName m.strategy? byAlias, f.unwrapping?, f.property⟩

/-- The field is stored and serialized. -/
structure Serializes (m : Model) (f : Field) : Prop where
  mem : f ∈ m.fields
  stored : f.isTransient = false
  shown : f.options.excluded = false

theorem mem_exposed_iff {m : Model} {byAlias : Bool} {x : Exposed} :
    x ∈ m.exposed byAlias ↔
      ∃ f, m.Serializes f ∧ x = ⟨f.externalName m.strategy? byAlias, f.unwrapping?, f.property⟩ := by
  simp only [exposed, stored, List.mem_map, List.mem_filter, Bool.not_eq_true', and_assoc]
  constructor
  · intro h
    obtain ⟨f, h1, h2, h3, rfl⟩ := h
    exact ⟨f, ⟨h1, h2, h3⟩, rfl⟩
  · intro h
    obtain ⟨f, hf, rfl⟩ := h
    exact ⟨f, hf.mem, hf.stored, hf.shown, rfl⟩

theorem Serializes.property_mem {m : Model} {f : Field} (h : m.Serializes f) :
    f.property ∈ m.entity.properties :=
  List.mem_map_of_mem (List.mem_filter.2 ⟨h.mem, by simp [h.stored]⟩)

end Model

/-! ## Collections of models -/

/-- The models that are declared, each under its own name. -/
abbrev Models := List Model

namespace Models

def find? (ms : Models) (name : String) : Option Model := List.find? (·.name = name) ms

/-- The model that a type refers to. -/
def ofType? (ms : Models) (t : TypeExpr) : Option Model := t.model?.bind ms.find?

/-- The name of a model with the place of its declaration in front. -/
def fullName (ms : Models) (name : String) : String :=
  match ms.find? name with
  | some m => m.home ++ "." ++ name
  | none => name

theorem name_of_find? {ms : Models} {n : String} {m : Model} (h : ms.find? n = some m) : m.name = n := by
  simpa using List.find?_some h

end Models

end SortPath
