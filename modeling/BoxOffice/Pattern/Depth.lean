import BoxOffice.Pattern.Basic
/-!
# How deep a pattern goes

Groups, classes, repetitions and lists of parts stand within each other.  `Tree.tooDeep?` finds the first
part that has more than so many of them around it and at it.
-/

namespace BoxOffice.Pattern

mutual

/-- The first part of a class for which `left` is not enough. -/
def ClassTree.tooDeep? (left : Nat) : ClassTree → Option Span
  | .bracketed span _ inner =>
    match left with
    | 0 => some span
    | left + 1 => inner.tooDeep? left
  | .union span items =>
    match left with
    | 0 => some span
    | left + 1 => tooDeepClass? left items
  | .combined span _ first second =>
    match left with
    | 0 => some span
    | left + 1 => (first.tooDeep? left) <|> (second.tooDeep? left)
  | _ => none

def tooDeepClass? (left : Nat) : List ClassTree → Option Span
  | [] => none
  | item :: items =>
    match item.tooDeep? left with
    | some span => some span
    | none => tooDeepClass? left items

end

mutual

/-- The first part of a pattern for which `left` is not enough. -/
def Tree.tooDeep? (left : Nat) : Tree → Option Span
  | .bracketed span _ inner =>
    match left with
    | 0 => some span
    | left + 1 => inner.tooDeep? left
  | .repeated span _ part =>
    match left with
    | 0 => some span
    | left + 1 => part.tooDeep? left
  | .group span _ inner =>
    match left with
    | 0 => some span
    | left + 1 => inner.tooDeep? left
  | .sequence span parts =>
    match left with
    | 0 => some span
    | left + 1 => tooDeepTrees? left parts
  | .choice span branches =>
    match left with
    | 0 => some span
    | left + 1 => tooDeepTrees? left branches
  | _ => none

def tooDeepTrees? (left : Nat) : List Tree → Option Span
  | [] => none
  | part :: parts =>
    match part.tooDeep? left with
    | some span => some span
    | none => tooDeepTrees? left parts

end

end BoxOffice.Pattern
