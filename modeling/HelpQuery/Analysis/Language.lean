import HelpQuery.Text.Lowercase

/-!
# Languages

The languages a text can be analyzed in, by their names in any case.
-/

namespace HelpQuery

inductive Language where
  | arabic
  | danish
  | dutch
  | english
  | finnish
  | french
  | german
  | greek
  | hungarian
  | italian
  | norwegian
  | portuguese
  | romanian
  | russian
  | spanish
  | swedish
  | tamil
  | turkish
  deriving DecidableEq, Repr

/-- No language has this name. -/
structure UnknownLanguage where
  /-- The name in lower case. -/
  name : String
  deriving DecidableEq, Repr

def UnknownLanguage.message (e : UnknownLanguage) : String :=
  "unsupported stemmer language: " ++ e.name

namespace Language

/-- Every language with its name in lower case. -/
def named : List (String × Language) :=
  [("arabic", arabic), ("danish", danish), ("dutch", dutch), ("english", english),
   ("finnish", finnish), ("french", french), ("german", german), ("greek", greek),
   ("hungarian", hungarian), ("italian", italian), ("norwegian", norwegian),
   ("portuguese", portuguese), ("romanian", romanian), ("russian", russian),
   ("spanish", spanish), ("swedish", swedish), ("tamil", tamil), ("turkish", turkish)]

/-- The language of a name, the case of its letters aside. -/
def ofName (name : String) : Except UnknownLanguage Language :=
  let lowered := String.ofList (Text.lowerWord name.toList)
  match named.lookup lowered with
  | some language => .ok language
  | none => .error ⟨lowered⟩

/-- The name of a language, its first letter upper case. -/
def title : Language → String
  | arabic => "Arabic"
  | danish => "Danish"
  | dutch => "Dutch"
  | english => "English"
  | finnish => "Finnish"
  | french => "French"
  | german => "German"
  | greek => "Greek"
  | hungarian => "Hungarian"
  | italian => "Italian"
  | norwegian => "Norwegian"
  | portuguese => "Portuguese"
  | romanian => "Romanian"
  | russian => "Russian"
  | spanish => "Spanish"
  | swedish => "Swedish"
  | tamil => "Tamil"
  | turkish => "Turkish"

end Language

end HelpQuery
