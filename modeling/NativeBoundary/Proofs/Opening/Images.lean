import NativeBoundary.Loading.Opened
import NativeBoundary.Proofs.Opening.Candidates
import NativeBoundary.Proofs.Paths.Components

/-!
# The library behind a path

Behind a path with a slash stands the library that is read there, and a path without
one is left to the system.  So two spellings of a path that differ in that may lead to
different libraries.  But a path that a name stands for is never in doubt: it has no
other spelling that is a file name alone, since a name that is not searched is absolute
or has several components, and any other one ends in the name of a file.
-/

namespace NativeBoundary

namespace Path

/-! ## The end of a text -/

theorem intercalate_concat_append (front : List String) (last tail : String) :
    "/".intercalate (front ++ [last ++ tail]) = "/".intercalate (front ++ [last]) ++ tail := by
  by_cases nothing : front = []
  · rw [nothing, List.nil_append, String.intercalate_singleton, List.nil_append,
      String.intercalate_singleton]
  · rw [String.intercalate_append_of_ne_nil nothing (List.cons_ne_nil _ _),
      String.intercalate_append_of_ne_nil nothing (List.cons_ne_nil _ _),
      String.intercalate_singleton, String.intercalate_singleton, ← String.append_assoc]

/-- What holds no slash is written on behind the last segment of a text. -/
theorem exists_segments_ofText_append (text : String) {tail : String}
    (plain : '/' ∉ tail.toList) :
    ∃ front last, (ofText (text ++ tail)).segments = front ++ [last ++ tail] := by
  obtain none | ⟨front, last, split⟩ := List.eq_nil_or_concat' (ofText text).segments
  · exact absurd none (ofText text).isWritten.1
  · refine ⟨front, last, ?_⟩
    have written : IsWritten (front ++ [last ++ tail]) := by
      refine ⟨by simp, fun segment inside => ?_⟩
      have before := (ofText text).isWritten.2
      rw [split] at before
      rcases List.mem_append.mp inside with further | itself
      · exact before segment (List.mem_append_left _ further)
      · rw [List.mem_singleton.mp itself, String.toList_append, List.mem_append, not_or]
        exact ⟨before last (List.mem_append_right _ (List.mem_singleton_self last)), plain⟩
    have whole : Path.text ⟨front ++ [last ++ tail], written⟩ = text ++ tail := by
      rw [Path.text, intercalate_concat_append, ← split]
      exact congrArg (· ++ tail) (text_ofText text)
    rw [← whole, ofText_text]

/-- The file of a library has a name. -/
theorem isSignificant_append_so (name : String) : isSignificant (name ++ ".so") = true := by
  refine eq_true_of_ne_false fun plain => ?_
  have long : 3 ≤ (name ++ ".so").utf8ByteSize := by
    rw [String.utf8ByteSize_append]
    exact Nat.le_add_left 3 _
  rcases eq_or_eq_of_not_significant plain with blank | dot
  · rw [blank] at long
    exact absurd long (by decide)
  · rw [dot] at long
    exact absurd long (by decide)

end Path

namespace SearchPath

variable {surroundings : Surroundings} {directories : List Path} {name : String} {path : Path}

theorem isPlainest_joinName (directory : Path) (name : String) :
    (directory.joinName (name ++ ".so")).IsPlainest := by
  have plain : '/' ∉ ".so".toList := by decide
  obtain ⟨front, last, split⟩ := Path.exists_segments_ofText_append name plain
  have named := Path.isSignificant_append_so last
  unfold Path.joinName Path.join
  split
  · exact Path.isPlainest_of_concat split named
  · have behind : directory.front ++ (Path.ofText (name ++ ".so")).segments =
        directory.front ++ front ++ [last ++ ".so"] := by
      rw [split, List.append_assoc]
    exact Path.isPlainest_of_concat behind named

/-- A path that a name stands for has no other spelling without a slash. -/
theorem StandsFor.isPlainest (stands : StandsFor surroundings directories name path) :
    path.IsPlainest := by
  cases stands with
  | itself isPath exist =>
    rcases isPath with absolute | several
    · exact Path.isPlainest_of_isAbsolute absolute
    · exact Path.isPlainest_of_one_lt_length several
  | likelier short split lacking exist => exact isPlainest_joinName _ _
  | other short split lacking missing exist => exact isPlainest_joinName _ _

end SearchPath

namespace Surroundings

variable {surroundings : Surroundings} {path : Path} {image : Image}

theorem image?_of_content {content : Content} (several : 1 < path.segments.length)
    (read : surroundings.content path = .ok content) :
    surroundings.image? path = content.image? := by
  rw [image?, if_neg (Nat.not_le.mpr several), read]

/-- A library with a slash in its path is read there. -/
theorem content_of_image? (several : 1 < path.segments.length)
    (loadable : surroundings.image? path = some image) :
    surroundings.content path = .ok (.library image) := by
  rw [image?, if_neg (Nat.not_le.mpr several)] at loadable
  cases read : surroundings.content path with
  | error fault =>
    rw [read] at loadable
    cases loadable
  | ok content =>
    rw [read] at loadable
    cases content with
    | bytes bytes => cases loadable
    | library stored => rw [Option.some.inj loadable]

/-- A library that can be loaded under one spelling of a path can be loaded under any other one
that leads anywhere, unless only the other one is left to the system. -/
theorem image?_of_components {first second : Path}
    (same : first.components = second.components) (plainest : second.IsPlainest)
    (loadable : surroundings.image? first = some image)
    (exist : surroundings.pathExists second = true) :
    surroundings.image? second = some image := by
  by_cases short : first.segments.length ≤ 1
  · rw [← plainest first same short, loadable]
  · have several := Nat.lt_of_not_le short
    have read := content_of_image? several loadable
    obtain ⟨front, last, written, named⟩ := Storage.exists_last_of_content_eq_ok read
    have components := Path.one_lt_length_components written named several
    have further : 1 < second.segments.length := by
      refine Nat.lt_of_not_le fun alone => ?_
      have few := Path.length_components_le alone
      rw [← same] at few
      exact absurd components (Nat.not_lt.mpr few)
    exact image?_of_content further (Storage.content_of_components same read exist)

end Surroundings

end NativeBoundary
