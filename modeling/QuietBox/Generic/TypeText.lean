import QuietBox.Generic.HostType

/-!
Short spellings of host types. Pointers, options and primitive types are read into their
constructors; in the spelling of any other type each known name is replaced by its path.
-/

set_option autoImplicit false

namespace QuietBox.HostType

/-- The paths of named types. -/
def path? : List Char → Option String :=
  fun name =>
    [("String", "alloc::string::String"),
     ("CStr", "core::ffi::c_str::CStr"),
     ("CString", "alloc::ffi::c_str::CString"),
     ("Vec", "alloc::vec::Vec"),
     ("Box", "alloc::boxed::Box"),
     ("Result", "core::result::Result"),
     ("Option", "core::option::Option"),
     ("NonNull", "core::ptr::non_null::NonNull"),
     ("BoxedValue", "nanbox::boxed::BoxedValue"),
     ("Tag", "nanbox::tag::Tag")].lookup (String.ofList name)

/-- The characters of names. -/
def isNameChar (c : Char) : Bool := c.isAlphanum || c = '_'

private def withPath (name : List Char) : List Char :=
  match path? name with
  | some path => path.toList
  | none => name

/-- A spelling with every known name replaced; `name` is the name being read. -/
def qualify (name : List Char) : List Char → List Char
  | [] => withPath name
  | c :: rest =>
    if isNameChar c then qualify (name ++ [c]) rest
    else withPath name ++ c :: qualify [] rest

/-- The types with a spelling of their own. -/
def ofName? (spelling : List Char) : Option HostType :=
  [("f64", double), ("f32", single),
   ("u8", unsigned .w8), ("u16", unsigned .w16), ("u32", unsigned .w32), ("u64", unsigned .w64),
   ("i8", signed .w8), ("i16", signed .w16), ("i32", signed .w32), ("i64", signed .w64),
   ("bool", bool), ("()", unit), ("&CStr", text)].lookup (String.ofList spelling)

/-- What follows a beginning and precedes an end. -/
def between? (first last spelling : List Char) : Option (List Char) :=
  if first.isPrefixOf spelling && last.isSuffixOf (spelling.drop first.length) then
    some ((spelling.drop first.length).take (spelling.length - first.length - last.length))
  else none

/-- The type of a spelling; the depth bounds the number of pointers and options around a type. -/
def ofTextWithin : Nat → List Char → HostType
  | 0, spelling => .other (String.ofList (qualify [] spelling))
  | depth + 1, spelling =>
    let inner := ofTextWithin depth
    match ofName? spelling with
    | some t => t
    | none =>
      match between? "*const ".toList [] spelling, between? "*mut ".toList [] spelling,
          between? "NonNull<".toList ['>'] spelling, between? "Option<".toList ['>'] spelling with
      | some t, _, _, _ => .pointer .reading (inner t)
      | _, some t, _, _ => .pointer .writing (inner t)
      | _, _, some t, _ => .pointer .nonNull (inner t)
      | _, _, _, some t => .optional (inner t)
      | _, _, _, _ => .other (String.ofList (qualify [] spelling))

/-- The type of a spelling. -/
def ofText (spelling : String) : HostType := ofTextWithin spelling.length spelling.toList

/-- The type under a number of options. -/
def wrapped : Nat → HostType → HostType
  | 0, t => t
  | n + 1, t => .optional (wrapped n t)

end QuietBox.HostType
