/-
  Names for the endpoints of an API, made from their paths.

  Of a path, the segments without placeholders are kept and the leading pairs of
  them that the settings skip are dropped (`segments`). What is left gives

  * the `name`: all segments joined by underscores, or `root` if there are none;
  * the `folder`: all segments but the last, joined by slashes.

  Both are in lower case with underscores for hyphens. The placeholders of a
  path give the `parameterSuffix` that tells apart two paths of one name.
-/
import ApiTypes.Placeholder
import ApiTypes.Text.Case
import ApiTypes.Text.Split

namespace ApiTypes.Naming

/-! ## Segments -/

/-- The name of a path of which no segment is left. -/
def rootName : String := "root"

/-- A segment is kept when it is not empty and holds no brace. -/
def isKept (segment : String) : Bool :=
  segment != "" && !segment.toList.any fun c => c == '\x7b' || c == '\x7d'

/-- The kept segments behind the skipped pairs. -/
def segments (path : String) (skip : Nat) : List String :=
  ((Text.split '/' path).filter isKept).drop (2 * skip)

/-- A segment with underscores for hyphens. -/
def clean (segment : String) : String := segment.map fun c => if c = '-' then '_' else c

/-! ## Name and folder -/

/-- The endpoint name of a path. -/
def name (path : String) (skip : Nat) : String :=
  match segments path skip with
  | [] => rootName
  | kept => Text.lower (Text.join "_" (kept.map clean))

/-- The folder of a path: empty if at most one segment is left. -/
def folder (path : String) (skip : Nat) : String :=
  Text.lower (Text.join "/" ((segments path skip).dropLast.map clean))

/-! ## Parameter suffix -/

/-- A lower-case ASCII letter or a digit. -/
def isPlain (c : Char) : Bool := ('a' ≤ c && c ≤ 'z') || ('0' ≤ c && c ≤ '9')

/-- A parameter name in lower case, reduced to its runs of letters and digits with
one underscore between them. -/
def plainName (parameter : String) : String :=
  Text.join "_" ((((Text.lower parameter).toList.splitOnP (!isPlain ·)).filter (· ≠ [])).map
    String.ofList)

/-- The words that name the parameters of a path: `by_a_and_b`, or nothing if no
parameter has a letter or digit. -/
def parameterSuffix (parameters : List String) : String :=
  match (parameters.map plainName).filter (· ≠ "") with
  | [] => ""
  | names => "by_" ++ Text.join "_and_" names

end ApiTypes.Naming
