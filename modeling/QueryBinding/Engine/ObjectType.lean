import QueryBinding.Failure
/-!
Types of the objects that an engine is made of, and of the values that these hold. A type says
which members its objects have and which arguments a member needs; most members are the same for
all types. `Member.refusal?` tells why a member cannot be called with a number of arguments.
-/
namespace QueryBinding

/-- Which numbers of arguments a member takes, and how a refusal counts them. -/
inductive ArgumentRule where
  | any
  | empty
  | single
  | nonempty
  /-- So many arguments; a refusal begins with the text. -/
  | exactly (before : String) (count : Nat)
  /-- At least so many arguments; a refusal begins with the text. -/
  | atLeast (before : String) (count : Nat)
deriving DecidableEq, Repr

/-- Why a callee does not take a number of arguments. -/
def ArgumentRule.refusal? (callee : String) (given : Nat) : ArgumentRule → Option ArgumentFault
  | any => none
  | empty => if given = 0 then none else some (.notNone callee given)
  | single => if given = 1 then none else some (.notOne callee given)
  | nonempty => if 0 < given then none else some (.notSome callee given)
  | exactly before count =>
    if given = count then none else some (.unexpected before count given)
  | atLeast before count =>
    if count ≤ given then none else some (.unexpected before count given)

/-- A member of an object. A method and a collector are known to messages under a name of their
own, and need arguments of the given names. -/
inductive Member where
  /-- A value, which cannot be called. -/
  | value (type : String)
  /-- Takes so many arguments more than it needs. -/
  | method (name : String) (needed : List String) (optional : Nat)
  /-- Takes any number of arguments more than it needs. -/
  | collector (name : String) (needed : List String)
  | builtIn (rule : ArgumentRule)
  /-- Cannot be called at all. -/
  | failing (failure : Failure)
deriving Repr

namespace Member

/-- Why a member of an object cannot be called with a number of arguments. -/
def refusal? (type member : String) (given : Nat) : Member → Option Failure
  | value held => some (.misuse (.notCallable held))
  | method name needed optional =>
    let callee := type ++ "." ++ name ++ "()"
    if needed.length ≤ given ∧ given ≤ needed.length + optional then none
    else if given < needed.length ∨ optional = 0 then
      some (.misuse (.arguments (.ofCount callee needed given)))
    else
      let least := needed.length + 1
      some (.misuse (.arguments (.surplusOf callee least (least + optional) (given + 1))))
  | collector name needed =>
    if needed.length ≤ given then none
    else some (.misuse (.arguments (.ofCount (type ++ "." ++ name ++ "()") needed given)))
  | builtIn rule =>
    (rule.refusal? (type ++ "." ++ member ++ "()") given).map fun fault =>
      .misuse (.arguments fault)
  | failing failure => some failure

end Member

/-- A type of objects. -/
structure ObjectType where
  /-- The name of the type in refusals of its members. -/
  name : String
  /-- What an object of the type is called where it has no such attribute. -/
  bearer : String := name
  /-- The members that differ from those of all objects, or that not all objects have. -/
  members : List (String × Member)

namespace ObjectType

/-- The same member under several names. -/
def each (names : List String) (member : Member) : List (String × Member) :=
  names.map fun name => (name, member)

/-- A member that takes so many arguments and is not named by its refusal. -/
def unnamed (count : Nat) : Member := .builtIn (.exactly "expected " count)

/-- The same, with a blank before the refusal. -/
def indented (count : Nat) : Member := .builtIn (.exactly " expected " count)

/-- Members that name themselves where they get fewer arguments than they need. -/
def atLeast (names : List String) (count : Nat) : List (String × Member) :=
  names.map fun name => (name, .builtIn (.atLeast (name ++ " expected at least ") count))

/-- Members that need an argument and are named without their type. -/
def needing (names : List String) : List (String × Member) :=
  names.map fun name => (name, .failing (.misuse (.arguments (.notSome (name ++ "()") 0))))

def comparisons : List String := ["__lt__", "__le__", "__eq__", "__ne__", "__gt__", "__ge__"]

/-- The members that show an object as a text or a number. -/
def views : List String := ["__repr__", "__hash__", "__str__"]

/-- The members that every object has. -/
def shared : List (String × Member) :=
  each views (unnamed 0) ++ each ("__getattribute__" :: "__delattr__" :: comparisons) (unnamed 1) ++
    [("__setattr__", indented 2)] ++
    each ["__reduce__", "__getstate__", "__init_subclass__", "__sizeof__", "__dir__"]
      (.builtIn .empty) ++
    each ["__reduce_ex__", "__format__"] (.builtIn .single) ++
    each ["__subclasshook__", "__init__", "__class__"] (.builtIn .any)

/-- Making an object of a type takes the type. -/
def maker (name : String) : String × Member :=
  ("__new__", .failing (.misuse (.member (.madeOfNothing name))))

/-- Values of these types have no written form for storage. -/
def storage (name : String) : String × Member :=
  ("__reduce__", .failing (.misuse (.member (.notStorable name))))

def member? (type : ObjectType) (name : String) : Option Member :=
  (type.members.lookup name).or (shared.lookup name)

/-! ### Values -/

def text : ObjectType where
  name := "str"
  members :=
    [("__doc__", .value "str"), maker "str", storage "str"] ++
      each ["__add__", "__contains__", "__getitem__", "__mod__", "__rmod__"] (unnamed 1) ++
      each ["__mul__", "__rmul__"] (indented 1) ++
      each ["format_map", "join", "partition", "removeprefix", "removesuffix", "rpartition",
        "translate", "zfill"] (.builtIn .single) ++
      atLeast ["center", "ljust", "maketrans", "rjust"] 1 ++ atLeast ["replace"] 2 ++
      needing ["count", "endswith", "find", "index", "rfind", "rindex", "startswith"] ++
      each ["__getnewargs__", "__iter__", "__len__", "capitalize", "casefold", "encode",
        "expandtabs", "format", "isalnum", "isalpha", "isascii", "isdecimal", "isdigit",
        "isidentifier", "islower", "isnumeric", "isprintable", "isspace", "istitle", "isupper",
        "lower", "lstrip", "rsplit", "rstrip", "split", "splitlines", "strip", "swapcase", "title",
        "upper"] (.builtIn .any)

def object : ObjectType where
  name := "dict"
  members :=
    [("__doc__", .value "str"), ("__hash__", .value "NoneType"), maker "dict", storage "dict",
      ("__setitem__", indented 2)] ++
      each ["__delitem__", "__ior__", "__or__", "__ror__"] (unnamed 1) ++
      each ["__class_getitem__", "__contains__", "__getitem__"] (.builtIn .single) ++
      atLeast ["fromkeys", "get", "pop", "setdefault"] 1 ++
      each ["__iter__", "__len__", "__reversed__", "clear", "copy", "items", "keys", "popitem",
        "update", "values"] (.builtIn .any)

def list : ObjectType where
  name := "list"
  members :=
    [("__doc__", .value "str"), ("__hash__", .value "NoneType"), maker "list", storage "list",
      ("__setitem__", indented 2),
      ("insert", .builtIn (.exactly "insert expected " 2))] ++
      each ["__add__", "__contains__", "__delitem__", "__iadd__"] (unnamed 1) ++
      each ["__imul__", "__mul__", "__rmul__"] (indented 1) ++
      each ["__class_getitem__", "__getitem__", "append", "count", "extend", "remove"]
        (.builtIn .single) ++
      atLeast ["index"] 1 ++
      each ["__iter__", "__len__", "__reversed__", "clear", "copy", "pop", "reverse", "sort"]
        (.builtIn .any)

def nothing : ObjectType where
  name := "NoneType"
  members :=
    [("__doc__", .value "NoneType"), maker "NoneType", storage "NoneType",
      ("__bool__", .builtIn .any)]

/-! ### Members that stand for themselves -/

def method : ObjectType where
  name := "method"
  bearer := "function"
  members :=
    [("__doc__", .value "NoneType"), ("__self__", .value "RecordingEngine"), maker "method",
      ("__class__", .builtIn (.exactly "method expected " 2))]

/-- What built-in members have in common. -/
def builtIn (name : String) : List (String × Member) :=
  [("__self__", .value "RecordingEngine"), maker "object",
    ("__class__", .failing (.misuse (.member (.notCreatable name))))] ++
    each ["__doc__", "__name__", "__qualname__", "__text_signature__"] (.value "str")

def wrapper : ObjectType where
  name := "method-wrapper"
  members := ("__objclass__", .builtIn .any) :: builtIn "method-wrapper"

def function : ObjectType where
  name := "builtin_function_or_method"
  members := ("__module__", .value "NoneType") :: builtIn "builtin_function_or_method"

/-! ### Handles, services and engines -/

/-- The members by which all parts of an engine differ from other objects. -/
def part (document : String) : List (String × Member) :=
  [("__module__", .value "str"), ("__doc__", .value document), ("__dict__", .value "dict"),
    ("__weakref__", .value "NoneType"), ("__getattr__", .method "__getattr__" ["name"] 0),
    maker "object"]

def handle : ObjectType where
  name := "RecordingQuery"
  members :=
    ("__new__", .builtIn .any) :: part "str" ++
      each ["__init__", "__class__"] (.method "__init__" [] 3) ++
      ["list", "count", "names", "filter_calls", "ordering_calls", "terminal_calls"].map
        (fun name => (name, .method name [] 0)) ++
      [("list_page", .method "list_page" ["first_result", "max_results"] 0),
        ("_terminal", .collector "_terminal" ["name"])]

def service : ObjectType where
  name := "_RecordingService"
  members :=
    part "NoneType" ++
      [("_engine", .value "RecordingEngine")] ++
      each ["__init__", "__class__"] (.method "__init__" ["engine"] 0)

def engine : ObjectType where
  name := "RecordingEngine"
  members := part "str" ++ each ["__init__", "__class__"] (.method "__init__" [] 1)

/-- The type of an engine is an object too. -/
def engineType : ObjectType where
  name := "RecordingEngine"
  members :=
    [("__init__", .method "__init__" ["self"] 0),
      ("__getattr__", .method "__getattr__" ["self", "name"] 0),
      ("__class__", .failing (.misuse (.member .typeArguments))),
      ("__abstractmethods__", .failing (.unknownMember "__abstractmethods__")),
      ("__dict__", .value "mappingproxy"), ("__weakref__", .value "getset_descriptor"),
      ("__annotations__", .value "dict"), ("__text_signature__", .value "NoneType"),
      maker "object"] ++
      each ["__bases__", "__mro__"] (.value "tuple") ++
      each ["__doc__", "__module__", "__name__", "__qualname__"] (.value "str") ++
      each ["__basicsize__", "__dictoffset__", "__flags__", "__itemsize__", "__weakrefoffset__"]
        (.value "int") ++
      (views ++ ["__getattribute__", "__delattr__", "__setattr__"] ++ comparisons).map
        (fun name => (name, .failing (.misuse (.member (.notBound name "object"))))) ++
      ["__dir__", "__format__", "__getstate__", "__reduce__", "__reduce_ex__", "__sizeof__"].map
        (fun name => (name, .failing (.misuse (.member (.unbound name "object"))))) ++
      each ["__or__", "__ror__"] (unnamed 1) ++
      each ["__instancecheck__", "__subclasscheck__"] (.builtIn .single) ++
      each ["__base__", "__call__", "__prepare__", "__subclasses__", "mro"] (.builtIn .any)

end ObjectType
end QueryBinding
