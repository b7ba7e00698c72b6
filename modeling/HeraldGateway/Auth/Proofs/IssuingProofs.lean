import HeraldGateway.Auth.ApiKeys
import HeraldGateway.Text.Proofs.EncodingsProofs

/-!
# Issued keys are valid and distinct

Thirty-two bytes become between 32 and 48 letters in base 58, whatever they are. The letters tell the bytes,
and the four letters before them the environment.
-/

namespace HeraldGateway

open Text

/-- The letters before the random ones. -/
def keyHead : Environment → JsString
  | .production => js "hrld_live_"
  | .sandbox => js "hrld_test_"

variable {hashKey : JsString → JsString}

theorem plainText_eq (k : IssuedKey) :
    k.plainText hashKey = keyHead k.environment ++ Base58.encode k.random.1 := by
  cases k with
  | apiKey environment random =>
    have hhead : ∀ e : Environment, js "hrld_" ++ (if e = .production then js "live" else js "test") ++
        js "_" = keyHead e := by
      intro e
      cases e <;> decide
    exact congrArg (· ++ Base58.encode random.1) (hhead environment)
  | testKey random => rfl

theorem keyHead_length (e : Environment) : (keyHead e).length = 10 := by
  cases e <;> decide

theorem keyHead_injective {e e' : Environment} (h : keyHead e = keyHead e') : e = e' := by
  cases e <;> cases e' <;> first | rfl | exact absurd h (by decide)

/-- The letters of base 58 are those of the format. -/
theorem isBase58_encode (b : List UInt8) : ∀ u ∈ Base58.encode b, isBase58 u = true := by
  intro u hu
  have hall : Base58.alphabet.all isBase58 = true := by decide +kernel
  exact List.all_eq_true.1 hall u (Base58.encode_mem u hu)

/-- What is stored for a key is the hash of its text. -/
theorem storedHash_eq (k : IssuedKey) : k.storedHash hashKey = hashKey (k.plainText hashKey) := by
  cases k <;> rfl

/-- A key of any bytes has the format. -/
theorem isValidKeyFormat_plainText (k : IssuedKey) : isValidKeyFormat (k.plainText hashKey) = true := by
  have hlow := Base58.length_le k.random.1
  have hhigh := Base58.length_encode_le k.random.1
  have hlength := k.random.2
  have htake : (k.plainText hashKey).take 10 = keyHead k.environment := by
    rw [plainText_eq, List.take_left' (keyHead_length _)]
  have hdrop : (k.plainText hashKey).drop 10 = Base58.encode k.random.1 := by
    rw [plainText_eq, List.drop_left' (keyHead_length _)]
  have hletters : (Base58.encode k.random.1).all isBase58 = true :=
    List.all_eq_true.2 (isBase58_encode _)
  have hhead : (keyHead k.environment == js "hrld_live_" || keyHead k.environment == js "hrld_test_") =
      true := by
    cases k.environment <;> decide
  unfold isValidKeyFormat
  dsimp only
  rw [htake, hdrop, hhead, hletters, Bool.true_and, Bool.and_true, Bool.and_eq_true, decide_eq_true_eq,
    decide_eq_true_eq]
  omega

/-- Every issued key has the format that is checked, its text tells its environment and its bytes, and
what is stored is its hash. -/
theorem issued_keys_valid (hashKey : JsString → JsString) (k : IssuedKey) :
    isValidKeyFormat (k.plainText hashKey) = true ∧
    k.storedHash hashKey = hashKey (k.plainText hashKey) ∧
    ∀ k' : IssuedKey, k.plainText hashKey = k'.plainText hashKey ↔
      k.environment = k'.environment ∧ k.random = k'.random := by
  refine ⟨isValidKeyFormat_plainText k, storedHash_eq k, fun k' => ⟨fun h => ?_, fun ⟨he, hr⟩ => ?_⟩⟩
  · rw [plainText_eq, plainText_eq] at h
    have hlength : (keyHead k.environment).length = (keyHead k'.environment).length := by
      rw [keyHead_length, keyHead_length]
    obtain ⟨hhead, hletters⟩ := List.append_inj h hlength
    exact ⟨keyHead_injective hhead, Subtype.ext (Base58.encode_injective hletters)⟩
  · rw [plainText_eq, plainText_eq, he, hr]

end HeraldGateway
