import HeraldGateway.Js
import HeraldGateway.Memo
import Mathlib.Data.Nat.Digits.Defs

/-!
# Compiled templates

The caches of `template.service.ts` and `mjml-compiler.service.ts`: compiled templates are kept under a hash
of their source. `compile` stands for `Handlebars.compile`, which does its work when the template is used.
-/

namespace HeraldGateway

variable {δ : Type}

/-! ### The hash -/

/-- `n | 0` -/
def toInt32 (n : Int) : Int := n.bmod (2 ^ 32)

/-- `Math.imul(m, n)` -/
def imul (m n : Int) : Int := toInt32 (m * n)

/-- A digit of a number in base 36. -/
def digit36 (d : Nat) : UInt16 := UInt16.ofNat (if d < 10 then 48 + d else 87 + d)

/-- `n.toString(36)` of a natural number. -/
def natToString36 (n : Nat) : JsString :=
  if n = 0 then js "0" else (Nat.digits 36 n).reverse.map digit36

/-- `n.toString(36)` -/
def toString36 (n : Int) : JsString :=
  if n < 0 then js "-" ++ natToString36 n.natAbs else natToString36 n.natAbs

/-- The number that `sha` computes. -/
def shaValue (str : JsString) : Int := str.foldl (fun h u => toInt32 (imul 31 h + u.toNat)) 0

/-- `sha` -/
def sha (str : JsString) : JsString := toString36 (shaValue str)

/-- `getCompiledTemplate` of the template service, on its cache. -/
def getCompiledTemplate (compile : JsString → δ) (templateCache : List (JsString × δ)) (source : JsString) :
    List (JsString × δ) × δ :=
  let key := sha source
  match templateCache.lookup key with
  | none => (templateCache ++ [(key, compile source)], compile source)
  | some compiled => (templateCache, compiled)

/-- The compiled templates that renders of the sources use, one after the other. -/
def compiledTemplates (compile : JsString → δ) (templateCache : List (JsString × δ)) : List JsString → List δ
  | [] => []
  | source :: sources =>
    (getCompiledTemplate compile templateCache source).2 ::
      compiledTemplates compile (getCompiledTemplate compile templateCache source).1 sources

/-- Every render uses the compilation of its own source, and different sources have different entries. -/
structure OwnTemplates (compile : JsString → δ) (sources : List JsString) : Prop where
  own : compiledTemplates compile [] sources = sources.map compile
  apart : ∀ s ∈ sources, ∀ t ∈ sources, s ≠ t → sha s ≠ sha t

/-- A source as a number in base 31, whose digits are its code units. -/
def base31 (str : JsString) : Nat := str.foldl (fun n u => 31 * n + u.toNat) 0

/-! ### MJML -/

/-- `hash << 5` -/
def shiftLeft5 (hash : Int) : Int := toInt32 (hash * 2 ^ 5)

/-- The number that `hashSource` computes, before its sign is dropped. -/
def hashValue (source : JsString) : Int :=
  source.foldl (fun hash u => toInt32 (shiftLeft5 hash - hash + u.toNat)) 0

/-- `hashSource` -/
def hashSource (source : JsString) : JsString := toString36 (hashValue source).natAbs

def maxCacheSize : Nat := 100

/-- `getCompiledTemplate` of the MJML compiler, on its cache, whose oldest entry is dropped when it is
full. -/
def getCompiledMjml (compile : JsString → δ) (cache : List (JsString × δ)) (source : JsString) :
    List (JsString × δ) × δ :=
  let cacheKey := hashSource source
  match cache.lookup cacheKey with
  | some template => (cache, template)
  | none =>
    let cache := if cache.length ≥ maxCacheSize then cache.tail else cache
    (cache ++ [(cacheKey, compile source)], compile source)

/-- The compiled templates that the MJML compiler uses for sources, one after the other. -/
def compiledMjml (compile : JsString → δ) (cache : List (JsString × δ)) : List JsString → List δ
  | [] => []
  | source :: sources =>
    (getCompiledMjml compile cache source).2 :: compiledMjml compile (getCompiledMjml compile cache source).1 sources

end HeraldGateway
