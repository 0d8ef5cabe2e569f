/-!
Faults in the use of the members that every object has: its attributes as a whole, its type, and
the texts and numbers that it is turned into.
-/
namespace QueryBinding

/-- Why a member of an object cannot be used in the way that was asked for. Types are named where
the value that was given is not of the kind that is needed. -/
inductive MemberFault where
  /-- The name of an attribute is no text. -/
  | attributeName (type : String)
  /-- What is to be the type of an object is none. -/
  | newType (type : String)
  | typeRemoval
  /-- What is to hold all attributes of an object cannot hold them. -/
  | newAttributes (type : String)
  /-- A layout for the text of an object is no text. -/
  | layout (type : String)
  /-- The text of an object has no layout. -/
  | layoutOf (type : String)
  /-- A version of the written form of an object is no integer. -/
  | version (type : String)
  /-- An object is to be made of a type that is none. -/
  | made (type : String)
  /-- An object is to be made of no type. -/
  | madeOfNothing (maker : String)
  | notStorable (type : String)
  | notCreatable (type : String)
  | typeArguments
  | notBound (member owner : String)
  | unbound (member owner : String)
deriving DecidableEq, Repr

namespace MemberFault

def message : MemberFault → String
  | attributeName type => "attribute name must be string, not '" ++ type ++ "'"
  | newType type => "__class__ must be set to a class, not '" ++ type ++ "' object"
  | typeRemoval => "can't delete __class__ attribute"
  | newAttributes type => "__dict__ must be set to a dictionary, not a '" ++ type ++ "'"
  | layout type => "__format__() argument must be str, not " ++ type
  | layoutOf type => "unsupported format string passed to " ++ type ++ ".__format__"
  | version type => "'" ++ type ++ "' object cannot be interpreted as an integer"
  | made type => "object.__new__(X): X is not a type object (" ++ type ++ ")"
  | madeOfNothing maker => maker ++ ".__new__(): not enough arguments"
  | notStorable type => "cannot pickle '" ++ type ++ "' object"
  | notCreatable type => "cannot create '" ++ type ++ "' instances"
  | typeArguments => "type() takes 1 or 3 arguments"
  | notBound member owner =>
    "descriptor '" ++ member ++ "' of '" ++ owner ++ "' object needs an argument"
  | unbound member owner =>
    "unbound method " ++ owner ++ "." ++ member ++ "() needs an argument"

end MemberFault
end QueryBinding
