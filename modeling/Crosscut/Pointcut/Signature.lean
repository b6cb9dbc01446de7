import Crosscut.Pointcut.Error
import Crosscut.Pointcut.Scope

/-! The body of an `execution` clause: modifiers, a return type, a method name that may follow a
declaring type and a dot, and a parameter list in parentheses. The name starts after the last dot.
Where two dots stand before the name, that leaves a declaring part that ends with a dot; a star
completes it, which stands for one segment. -/
namespace Crosscut.SignaturePattern

def readModifiers : List (List Char) → Except PatternFault (List Modifier)
  | [] => .ok []
  | word :: rest =>
    match Modifier.ofKeyword? (String.ofList word) with
    | none => .error (.unknownModifier (String.ofList word))
    | some modifier => (readModifiers rest).map (modifier :: ·)

/-- The declaring type and the method name of a qualified name. -/
def splitName (qualified : List Char) : Option TypePattern × List Char :=
  match Text.cutLast '.' qualified with
  | none => (none, qualified)
  | some (before, name) =>
    (some ⟨String.ofList (if before.getLast? == some '.' then before ++ ['*'] else before)⟩, name)

def readParams : List (List Char) → Except PatternFault (List ParamPattern)
  | [] => .ok []
  | item :: rest =>
    if item == ['.', '.'] then (readParams rest).map (.rest :: ·)
    else if Pointcut.isTypeText item then
      (readParams rest).map (.type ⟨String.ofList item⟩ :: ·)
    else .error (.parameterType (String.ofList item))

/-- Splits a signature before its parameter list: what stands before the parenthesis that opens
it, and what stands between the parentheses. -/
def splitParameterList (body : List Char) : Option (List Char × List Char) :=
  match Text.cutLast '(' body with
  | some (head, inside) => if inside.getLast? == some ')' then some (head, inside.dropLast) else none
  | none => none

def read (body : List Char) : Except PatternFault SignaturePattern :=
  match splitParameterList body with
  | none => .error .noParameterList
  | some (head, inside) =>
    match (Text.words head).reverse with
    | qualified :: returns :: modifiers =>
      match readModifiers modifiers.reverse with
      | .error fault => .error fault
      | .ok modifiers =>
        if !Pointcut.isTypeText returns then .error (.returnType (String.ofList returns))
        else if !Pointcut.isTypeText (splitName qualified).2 then
          .error (.methodName (String.ofList qualified))
        else
          (readParams (Text.items inside)).map fun params =>
            { modifiers
              returns := ⟨String.ofList returns⟩
              declaring := (splitName qualified).1
              name := ⟨String.ofList (splitName qualified).2⟩
              params }
    | _ => .error .noReturnOrName

end Crosscut.SignaturePattern
