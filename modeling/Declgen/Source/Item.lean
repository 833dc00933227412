import Declgen.Source.Grammar

/-!
# Items of a source file

Imports, types, constants, functions and what contains them, with the attributes and the visibility that they
share. The body of a function and the items in braces are kept as tokens.
-/

namespace Declgen.Source

inductive Visibility where
  /-- Nothing is said. -/
  | inherited
  | everywhere
  /-- Visible below a path. -/
  | within (absolute : Bool) (path : List String)
deriving DecidableEq

/-- A field of a struct; those of a tuple struct have no name. -/
structure Field where
  attributes : List Attribute
  visibility : Visibility
  name : Option String
  type : Ty

/-- What an import names. -/
inductive UseTree where
  | name (name : String)
  | rename (name newName : String)
  /-- All names. -/
  | glob
  | inside (name : String) (tree : UseTree)
  | group (trees : List UseTree)

/-- The last thing a tree holds are names in braces. -/
def UseTree.endsInBraces : UseTree → Bool
  | .inside _ tree => tree.endsInBraces
  | .group _ => true
  | _ => false

/-- The fields of a struct or a variant. -/
inductive Fields where
  | named (fields : List Field)
  | positional (fields : List Field)
  | nothing

/-- A case of an enum, which may have a number of its own. -/
structure Variant where
  attributes : List Attribute
  name : String
  fields : Fields
  number : Option Expr

/-! ## Generic items -/

/-- What an item is generic in. -/
inductive Parameter where
  | lifetime (attributes : List Attribute) (name : String) (bounds : List String)
  | type (attributes : List Attribute) (name : String) (bounds : List Bound) (otherwise : Option Ty)
  | value (attributes : List Attribute) (name : String) (type : Ty) (otherwise : Option Expr)

def Parameter.isLifetime : Parameter → Bool
  | .lifetime _ _ _ => true
  | _ => false

/-- A condition on parameters. -/
inductive Predicate where
  | lifetime (name : String) (bounds : List String)
  | type (binder : Option Binder) (type : Ty) (bounds : List Bound)

structure Generics where
  parameters : List Parameter
  predicates : List Predicate

/-! ## Functions -/

inductive Input where
  /-- The value that a method is called on. -/
  | receiver (attributes : List Attribute) (reference : Option (Option String)) (mutable : Bool) (type : Option Ty)
  | typed (attributes : List Attribute) (pattern : Pattern) (type : Ty)
  /-- Any further inputs. -/
  | variadic (attributes : List Attribute) (pattern : Option Pattern)

def Input.isReceiver : Input → Bool
  | .receiver _ _ _ _ => true
  | _ => false

def Input.isVariadic : Input → Bool
  | .variadic _ _ => true
  | _ => false

structure Signature where
  constant : Bool
  async : Bool
  unchecked : Bool
  abi : Option (Option String)
  name : String
  generics : Generics
  inputs : List Input
  result : Option Ty

/-! ## Items -/

/-- Inner attributes and what follows them in braces, as tokens. -/
structure Body where
  attributes : List Attribute
  tokens : List Token

inductive Declaration where
  | use_ (absolute : Bool) (tree : UseTree)
  | typeAlias (name : String) (generics : Generics) (type : Ty)
  /-- A type that belongs to a trait or to what implements one. -/
  | associatedType (overridable : Bool) (name : String) (generics : Generics) (bounds : List Bound)
      (type : Option Ty)
  /-- In a trait a constant may lack its value. -/
  | constant (overridable : Bool) (name : String) (type : Ty) (value : Option Expr)
  /-- Outside of this file a variable lacks its value. -/
  | static (mutable : Bool) (name : String) (type : Ty) (value : Option Expr)
  | externalType (name : String) (generics : Generics)
  | struct (name : String) (generics : Generics) (fields : Fields)
  | union (name : String) (generics : Generics) (fields : List Field)
  | enum (name : String) (generics : Generics) (variants : List Variant)
  | module (unchecked : Bool) (name : String) (items : Option Body)
  | externalCrate (name : String) (newName : Option String)
  | external (unchecked : Bool) (abi : Option String) (items : Body)
  | function (overridable : Bool) (signature : Signature) (body : Option Body)
  | trait (unchecked automatic : Bool) (name : String) (generics : Generics) (bounds : List Bound) (items : Body)
  | traitAlias (name : String) (generics : Generics) (bounds : List Bound)
  /-- What a type has of its own, or how it is one of a trait; a negative one tells that it is not. -/
  | implementation (overridable unchecked : Bool) (generics : Generics) (negative : Bool)
      (trait : Option (Bool × List Segment)) (self : Ty) (items : Body)
  /-- Written as `path! name {tokens}`, where mostly there is no name. -/
  | invocation (absolute : Bool) (path : List String) (name : Option String) (bracket : Bracket)
      (tokens : List Token)

structure Item where
  attributes : List Attribute
  visibility : Visibility
  declaration : Declaration

end Declgen.Source
