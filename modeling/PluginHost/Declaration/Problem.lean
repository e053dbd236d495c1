import PluginHost.Declaration.Token

/-
This file holds what can be wrong with a declaration.
-/

namespace PluginHost

/-- What should have come next. -/
inductive Wanted where
  | key
  | word
  | identifier
  | parentheses
  | sign (expected : Char)
deriving DecidableEq, Repr

def Wanted.text : Wanted → String
  | .key => "nested attribute"
  | .word => "ident"
  | .identifier => "identifier"
  | .parentheses => "parentheses"
  | .sign expected => "\x60" ++ String.singleton expected ++ "\x60"

inductive DeclarationError where
  | ended (wanted : Wanted)
  | expected (wanted : Wanted)
  | reserved (word : String)
  | literalKey
  | unnamedKey
  | unknownKey
  | notAMethod
  | notAStructure
  | unnamedField
  | malformedMark
  | wrongType
deriving DecidableEq, Repr

namespace DeclarationError

def message : DeclarationError → String
  | .ended wanted => "unexpected end of input, expected " ++ wanted.text
  | .expected wanted => "expected " ++ wanted.text
  | .reserved word => s!"expected identifier, found keyword \x60{word}\x60"
  | .literalKey => "unexpected literal in nested attribute, expected ident"
  | .unnamedKey => "unexpected token in nested attribute, expected ident"
  | .unknownKey => "unknown #[plugin] key, expected \x60post_construct\x60 or \x60crate\x60"
  | .notAMethod => "expected a method name"
  | .notAStructure => "#[derive(Plugin)] is only supported on structs"
  | .unnamedField => "#[inject] requires a named field"
  | .malformedMark => "expected string literal"
  | .wrongType => "#[inject] fields must have type \x60Injected<T>\x60"

/-- Something is wanted in front of these tokens, of which none may be left. -/
def lacking (wanted : Wanted) (tokens : List Token) : DeclarationError :=
  if tokens.isEmpty then .ended wanted else .expected wanted

end DeclarationError

end PluginHost
