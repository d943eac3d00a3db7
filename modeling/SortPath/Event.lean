import SortPath.Fields

/-!
# Repository events

An event tells that something happens to the entity `source`: it is created, saved or deleted, or
something is linked to it. Events about links also carry what is linked and under which relation.
-/
namespace SortPath

inductive Timing
  | before
  | after
deriving DecidableEq, Repr

/-- What happens to an entity. -/
inductive Change
  | create
  | save
  | delete
deriving DecidableEq, Repr

/-- What happens to a link. -/
inductive LinkChange
  | save
  | delete
deriving DecidableEq, Repr

inductive EventKind
  /-- Anything that happens to an entity. -/
  | repository
  | change (timing : Timing) (change : Change)
  /-- Anything that happens to a link. -/
  | linked
  | linkChange (timing : Timing) (change : LinkChange)
deriving DecidableEq, Repr

def Timing.name : Timing → String
  | before => "Before"
  | after => "After"

def Change.name : Change → String
  | create => "Create"
  | save => "Save"
  | delete => "Delete"

def LinkChange.name : LinkChange → String
  | save => "LinkSave"
  | delete => "LinkDelete"

namespace EventKind

def name : EventKind → String
  | repository => "RepositoryEvent"
  | change t c => t.name ++ c.name ++ "Event"
  | linked => "LinkedEntityEvent"
  | linkChange t c => t.name ++ c.name ++ "Event"

/-- The kind itself and the more general ones, the most special first. -/
def ancestry : EventKind → List EventKind
  | repository => [repository]
  | change t c => [change t c, repository]
  | linked => [linked, repository]
  | linkChange t c => [linkChange t c, linked, repository]

def all : List EventKind :=
  [repository, linked] ++
  [Timing.before, .after].flatMap fun t =>
    [Change.create, .save, .delete].map (change t) ++ [LinkChange.save, .delete].map (linkChange t)

def ofName? (name : String) : Option EventKind := all.find? (·.name = name)

/-- Whether events of the kind carry a link. -/
def isLink (k : EventKind) : Bool := k.ancestry.contains .linked

end EventKind

/-- What an event about a link carries besides its source. -/
structure LinkData where
  linked : Datum
  relation : Option String
deriving Repr

structure Event where
  kind : EventKind
  source : Datum
  link : Option LinkData
  link_isSome : link.isSome = kind.isLink
deriving Repr

namespace Event

/-- The event of a kind that a record describes. -/
def ofRecord (kind : EventKind) (r : Record) : Except Rejection Event :=
  Checked.toExcept <|
    if h : kind.isLink = true then
      (fun s l n => ⟨kind, s, some ⟨l, n⟩, h.symm⟩)
        <$> r.field "source" none Datum.readAny
        <*> r.field "linked" none Datum.readAny
        <*> r.field "relation" (some none) Datum.readOptionalText
    else
      (fun s => ⟨kind, s, none, by simpa using h⟩) <$> r.field "source" none Datum.readAny

/-- The fields in order of declaration. -/
def fields (e : Event) : Record :=
  ("source", e.source) ::
    match e.link with
    | none => []
    | some l => [("linked", l.linked), ("relation", (l.relation.map Datum.text).getD .null)]

/-- The same kind of event with the same fields. -/
def same (a b : Event) : Bool := a.kind == b.kind && Datum.same (.record a.fields) (.record b.fields)

end Event

end SortPath
