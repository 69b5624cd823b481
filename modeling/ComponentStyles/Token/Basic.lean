import ComponentStyles.Source.Span
import ComponentStyles.Pattern

/-!
The tokens of a stylesheet and the pattern of each kind.

Blanks and comments are tokens too: a blank between two selectors is a combinator, and a
comment between two statements is kept. What no pattern describes is an invalid token.
-/

namespace ComponentStyles

inductive Token.Kind where
  | whitespace
  | comment
  | openBrace
  | closeBrace
  | openParen
  | closeParen
  | openBracket
  | closeBracket
  | colon
  | semicolon
  | comma
  | dot
  | greater
  | plus
  | tilde
  | star
  | slash
  | bang
  | atKeyword
  | hash
  | identifier
  /-- An identifier and the parenthesis right after it. -/
  | function
  /-- A whole `url(...)`. -/
  | url
  /-- A number, a percentage or a dimension. -/
  | number
  | string
  | endOfInput
  | invalid
deriving DecidableEq, Repr

namespace Token.Kind

/-- Whether tokens of this kind only separate other tokens. -/
def isTrivia : Kind → Bool
  | whitespace => true
  | comment => true
  | _ => false

/-- What a message calls a token of this kind. -/
def name : Kind → Text
  | whitespace => "whitespace".toList
  | comment => "comment".toList
  | openBrace => "'\x7b'".toList
  | closeBrace => "'\x7d'".toList
  | openParen => "'('".toList
  | closeParen => "')'".toList
  | openBracket => "'['".toList
  | closeBracket => "']'".toList
  | colon => "':'".toList
  | semicolon => "';'".toList
  | comma => "','".toList
  | dot => "'.'".toList
  | greater => "'>'".toList
  | plus => "'+'".toList
  | tilde => "'~'".toList
  | star => "'*'".toList
  | slash => "'/'".toList
  | bang => "'!'".toList
  | atKeyword => "at-keyword".toList
  | hash => "hash".toList
  | identifier => "identifier".toList
  | function => "function".toList
  | url => "url".toList
  | number => "number".toList
  | string => "string".toList
  | endOfInput => "end of file".toList
  | invalid => "invalid token".toList

def oneOf (chars : String) : Pattern := .one (.oneOf chars.toList)

def noneOf (chars : String) : Pattern := .one (.noneOf chars.toList)

def digit : Pattern := .one (.within [('0', '9')])

def letter : Pattern := .one (.within [('a', 'z'), ('A', 'Z')])

/-- The first character of a name: an ASCII letter or an underscore. -/
def nameStart : Pattern := .one (.within [('a', 'z'), ('A', 'Z'), ('_', '_')])

/-- A later character of a name: also a digit or a hyphen. -/
def namePart : Pattern :=
  .one (.within [('a', 'z'), ('A', 'Z'), ('0', '9'), ('_', '_'), ('-', '-')])

/-- A name with at most two hyphens in front. -/
def dashedName : Pattern :=
  .inOrder [.maybe (oneOf "-"), .maybe (oneOf "-"), nameStart, .many namePart]

/-- A text between two equal quotes; a backslash takes the character after it along, and a
line feed ends no string. -/
def quoted (quote : Char) : Pattern :=
  .inOrder [.one (.oneOf [quote]),
    .many (.either (.one (.noneOf [quote, '\\', '\n'])) (.both (oneOf "\\") (noneOf "\n"))),
    .one (.oneOf [quote])]

/-- The texts of each kind. The end of the input has no text, and an invalid token is what no
other kind describes. -/
def pattern : Kind → Pattern
  | whitespace => .some (oneOf " \t\r\n\x0c")
  | comment => .inOrder [.word "/*".toList,
      .many (.either (noneOf "*") (.both (.some (oneOf "*")) (noneOf "*/"))),
      .some (oneOf "*"), oneOf "/"]
  | openBrace => oneOf "\x7b"
  | closeBrace => oneOf "\x7d"
  | openParen => oneOf "("
  | closeParen => oneOf ")"
  | openBracket => oneOf "["
  | closeBracket => oneOf "]"
  | colon => oneOf ":"
  | semicolon => oneOf ";"
  | comma => oneOf ","
  | dot => oneOf "."
  | greater => oneOf ">"
  | plus => oneOf "+"
  | tilde => oneOf "~"
  | star => oneOf "*"
  | slash => oneOf "/"
  | bang => oneOf "!"
  | atKeyword => .inOrder [oneOf "@", .maybe (oneOf "-"), nameStart, .many namePart]
  | hash => .both (oneOf "#") (.some namePart)
  | identifier => dashedName
  | function => .both dashedName (oneOf "(")
  | url => .inOrder [oneOf "uU", oneOf "rR", oneOf "lL", oneOf "(", .many (oneOf " \t\r\n"),
      .either (.many (noneOf ")\"' \t\r\n"))
        (.either (.inOrder [oneOf "\"", .many (noneOf "\""), oneOf "\""])
          (.inOrder [oneOf "'", .many (noneOf "'"), oneOf "'"])),
      .many (oneOf " \t\r\n"), oneOf ")"]
  | number => .inOrder [.maybe (oneOf "+-"),
      .either (.both (.some digit) (.maybe (.both (oneOf ".") (.some digit))))
        (.both (oneOf ".") (.some digit)),
      .maybe (.either (oneOf "%") (.some letter))]
  | string => .either (quoted '"') (quoted '\'')
  | endOfInput => .never
  | invalid => .never

/-- The kinds that have a pattern. -/
def described : List Kind :=
  [whitespace, comment, openBrace, closeBrace, openParen, closeParen, openBracket, closeBracket,
    colon, semicolon, comma, dot, greater, plus, tilde, star, slash, bang, atKeyword, hash,
    identifier, function, url, number, string]

end Token.Kind

structure Token where
  kind : Token.Kind
  text : Text
  span : Span
deriving DecidableEq, Repr

def Token.isTrivia (token : Token) : Bool :=
  token.kind.isTrivia

end ComponentStyles
