import OrgFederation.Url.Reader

namespace OrgFederation

namespace UrlSegments

/-- The form of one segment within a path. Tabs and line breaks are dropped. -/
def encode (special : Bool) (segment : String) : List Char :=
  Percent.encode (if special then Percent.specialSegment else Percent.segment)
    (segment.toList.filter fun letter => !UrlReader.isIgnored letter)

/-- A path of one empty segment is a bare root. -/
def isBare (segments : List (List Char)) : Bool :=
  segments == [[]]

/-- One empty segment at the end is dropped, unless the path is a bare root. -/
def withoutEmptyEnd (segments : List (List Char)) : List (List Char) :=
  if !isBare segments && segments.getLast? == some [] then segments.dropLast else segments

/-- A segment of one or two dots is passed over. One that has come to that only by losing tabs or
line breaks is resolved like a dot segment of a path. -/
def append (special : Bool) (segments : List (List Char)) (segment : String) :
    List (List Char) :=
  if segment = "." ∨ segment = ".." then
    segments
  else
    let held := if isBare segments then [] else segments
    UrlReader.resolveDots held [encode special segment]

end UrlSegments

/-- The address of some segments below a base. A base whose path has no root has nothing below. -/
def Url.below? (base : Url) (segments : List String) : Option Url :=
  match base.path with
  | .rootless _ => none
  | .rooted held =>
      let path := segments.foldl (UrlSegments.append base.isSpecial)
        (UrlSegments.withoutEmptyEnd held)
      some { base with path := .rooted path }

end OrgFederation
