/-!
# Compiler features

The properties of a compiler invocation that imply predefined macros, and
sets of them.  A set is its membership test, so that two sets with the same
members are equal; `FeatureSet.toList` lists the members in a fixed order.
-/

namespace BuildEnv

/-- What a compiler can be told to do that shows in its predefined macros. -/
inductive Feature where
  | openMp
  | winRt
  | clr
  | clrPure
  | clrSafe
  | exceptions
  | rtti
  | multithreadedRuntime
  | debugRuntime
  | dynamicRuntime
  | noDefaultLib
  | nativeWcharT
  | unsignedChar
  | wp64
  | runtimeChecks
  | avx
  | avx2
  | avx512
  | armFp
  | fpIa32
  | fpSse
  | cpp14
  | cpp17
  | cpp20
  | cppLatest
  | conformantCplusplus
  deriving DecidableEq, Repr

namespace Feature

/-- Every feature, in the order in which they are listed. -/
def all : List Feature :=
  [openMp, winRt, clr, clrPure, clrSafe, exceptions, rtti, multithreadedRuntime, debugRuntime,
    dynamicRuntime, noDefaultLib, nativeWcharT, unsignedChar, wp64, runtimeChecks, avx, avx2,
    avx512, armFp, fpIa32, fpSse, cpp14, cpp17, cpp20, cppLatest, conformantCplusplus]

/-- The features that name a language standard. -/
def languageStandards : List Feature :=
  [cpp14, cpp17, cpp20, cppLatest]

/-- Whether the feature names a language standard. -/
def isLanguageStandard (f : Feature) : Bool :=
  languageStandards.contains f

/-- The features that name an instruction set. -/
def instructionSets : List Feature :=
  [fpIa32, fpSse, avx, avx2, avx512, armFp]

end Feature

/-- A set of features. -/
structure FeatureSet where
  has : Feature → Bool

namespace FeatureSet

/-- The set without members. -/
def empty : FeatureSet := ⟨fun _ => false⟩

/-- Adds all the features of a list. -/
def insertAll (s : FeatureSet) (features : List Feature) : FeatureSet :=
  ⟨fun f => features.contains f || s.has f⟩

/-- Takes all the features of a list away. -/
def eraseAll (s : FeatureSet) (features : List Feature) : FeatureSet :=
  ⟨fun f => !features.contains f && s.has f⟩

/-- The set of the members of a list. -/
def ofList (features : List Feature) : FeatureSet :=
  empty.insertAll features

/-- The members, in the order of `Feature.all`. -/
def toList (s : FeatureSet) : List Feature :=
  Feature.all.filter s.has

end FeatureSet

end BuildEnv
