import ComponentStyles.Text

/-!
Comments in JSON text.

A comment starts outside a string, either with two slashes, and then it ends in front of the
next line feed, or with a slash and a star, and then it ends behind the next star and slash. A
comment that does not end reaches to the end of the text.
-/

namespace ComponentStyles.Json

mutual

/-- The text without its comments. -/
def withoutComments : Text → Text
  | [] => []
  | '"' :: rest => '"' :: withoutCommentsFromString rest
  | '/' :: '/' :: rest => withoutCommentsFromLine rest
  | '/' :: '*' :: rest => withoutCommentsFromBlock rest
  | c :: rest => c :: withoutComments rest

/-- Keeps the string that the text starts inside of. An escaped quote does not end it. -/
def withoutCommentsFromString : Text → Text
  | [] => []
  | '\\' :: c :: rest => '\\' :: c :: withoutCommentsFromString rest
  | '"' :: rest => '"' :: withoutComments rest
  | c :: rest => c :: withoutCommentsFromString rest

/-- Drops the line comment that the text starts inside of. -/
def withoutCommentsFromLine : Text → Text
  | [] => []
  | '\n' :: rest => '\n' :: withoutComments rest
  | _ :: rest => withoutCommentsFromLine rest

/-- Drops the block comment that the text starts inside of. -/
def withoutCommentsFromBlock : Text → Text
  | [] => []
  | '*' :: '/' :: rest => withoutComments rest
  | _ :: rest => withoutCommentsFromBlock rest

end

end ComponentStyles.Json
