/-! Blank characters and the trimming of texts.
Blank means the Unicode property White_Space, which has more members than the spaces of ASCII. -/

namespace SwarmDeploy.Text

/-- The characters with the Unicode property White_Space. -/
def isBlank (c : Char) : Bool :=
  let n := c.toNat
  (9 ≤ n && n ≤ 13) || n == 0x20 || n == 0x85 || n == 0xA0 || n == 0x1680 ||
    (0x2000 ≤ n && n ≤ 0x200A) || n == 0x2028 || n == 0x2029 || n == 0x202F ||
    n == 0x205F || n == 0x3000

def dropEndWhile (drop : Char → Bool) : List Char → List Char
  | [] => []
  | c :: cs =>
    match dropEndWhile drop cs with
    | [] => if drop c then [] else [c]
    | kept => c :: kept

def dropAround (drop : Char → Bool) (cs : List Char) : List Char :=
  dropEndWhile drop (cs.dropWhile drop)

def trim (cs : List Char) : List Char :=
  dropAround isBlank cs

theorem dropEndWhile_eq_nil_iff (drop : Char → Bool) (cs : List Char) :
    dropEndWhile drop cs = [] ↔ ∀ c ∈ cs, drop c = true := by
  induction cs with
  | nil => simp [dropEndWhile]
  | cons c cs ih =>
    rw [dropEndWhile]
    cases h : dropEndWhile drop cs with
    | nil =>
      have rest := ih.1 h
      by_cases hc : drop c <;> simp [hc]
      exact rest
    | cons d ds =>
      rw [h] at ih
      simp only [List.mem_cons, forall_eq_or_imp, reduceCtorEq, false_iff, not_and] at ih ⊢
      exact fun _ => ih

theorem dropEndWhile_append_singleton (drop : Char → Bool) (cs : List Char) (c : Char)
    (keep : drop c = false) : dropEndWhile drop (cs ++ [c]) = cs ++ [c] := by
  induction cs with
  | nil => simp [dropEndWhile, keep]
  | cons d ds ih =>
    rw [List.cons_append, dropEndWhile, ih]
    cases ds <;> rfl

end SwarmDeploy.Text
