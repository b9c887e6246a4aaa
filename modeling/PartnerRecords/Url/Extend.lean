import PartnerRecords.Url.Path

/-!
# Adding path segments

New segments go under the path of a URL, after the empty segment that a final slash stands
for is dropped. A segment is escaped so that it stays one segment; the segments `.` and `..`
add nothing.
-/

namespace PartnerRecords.Url

/-- Drops the empty segment that ends a path, unless it is the only one. -/
def dropEmptyLast (segments : List String) : List String :=
  if 1 < segments.length ∧ segments.getLast? = some "" then segments.dropLast else segments

/-- Adds a segment; the path of one empty segment gives way to it. A segment that is a dot
segment only without ignored characters leads on the spot or up. -/
def pushSegment (scheme : String) (segments : List String) (segment : String) : List String :=
  if segment = "." ∨ segment = ".." then segments
  else
    let set := if isSpecialScheme scheme then Text.Percent.specialSegmentSet
      else Text.Percent.segmentSet
    let front : Walk := { back := if segments = [""] then [] else segments.reverse }
    let file := scheme == "file"
    let pushed := (front.step file set true segment.toList).segments
    if file then trimRoot pushed else pushed

/-- Adds segments to the path, if the path is not plain text. -/
def extend? (u : Url) (segments : List String) : Option Url :=
  match u.path with
  | .plain _ => none
  | .segments list =>
      some { u with path := .segments (segments.foldl (pushSegment u.scheme) (dropEmptyLast list)) }

end PartnerRecords.Url
