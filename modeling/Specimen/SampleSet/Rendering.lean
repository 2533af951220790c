import Specimen.SampleSet
import Specimen.Source.Layout
import Specimen.Source.Reader
import Specimen.Source.Spelling

/-!
# Generated source

Every sample set becomes a block that gives the type a function with its samples. The blocks of a file
follow each other without anything between them, behind a header line.

A block is laid out for reading. That takes that the file can be read, so the path of every block has to be
read as a type. If one is not, the file is written as bare tokens, all blocks on one line.
-/

namespace Specimen

open Source

namespace SampleSet

/-- The samples, with commas between them. -/
def sampleTokens (set : SampleSet) : List Token := Token.commaSeparated (Expr.listTokens set.samples)

/-- The block as bare tokens. -/
def tokens (set : SampleSet) : List Token :=
  .word "impl" :: (set.typePath.tokens ++
    [.group .brace
      [.word "pub", .word "fn", .word set.member, .group .paren [],
        .mark '-' true, Token.lone '>', .word "Vec", Token.lone '<', .word "Self", Token.lone '>',
        .group .brace
          [.word "vec", Token.lone '!', .group .bracket set.sampleTokens]]])

/-- Whether a block can be read where it stands in a file: the tokens behind `impl` are those of a type. -/
def isReadable (set : SampleSet) : Bool :=
  match Grammar.type? Constant.isConstant (Grammar.stepsFor set.typePath.tokens) true
    set.typePath.tokens with
  | some (_, []) => true
  | _ => false

/-- The block, laid out. -/
def block (set : SampleSet) : String :=
  s!"impl {set.typePath.spelling} \x7b\n    pub fn {set.member}() -> Vec<Self> \x7b\n"
    ++ Layout.bracketed "        vec!" set.sampleTokens ++ "\n    \x7d\n\x7d\n"

/-- The blocks of several sets. -/
def renderAll (sets : List SampleSet) : String :=
  if sets.all isReadable then String.join (sets.map block)
  else Token.text (sets.flatMap tokens)

/-- The first line of a file. -/
def header : String := "// @generated by sample-builder. Do not edit."

/-- A file with the blocks of several sets. -/
def file (sets : List SampleSet) : String := header ++ "\n\n" ++ renderAll sets

end SampleSet

end Specimen
