import ObjcImage.TypeEncoding.Declaration

set_option autoImplicit false

/-!
Text copied from a binary into a comment cannot close it: `commentSafe` breaks every `*/`.
-/

namespace ObjcImage

namespace Declaration

theorem head?_commentSafe (cs : List Char) : (commentSafe cs).head? = cs.head? := by
  fun_induction commentSafe cs <;> simp

theorem commentSafe_leaves_no_close (raw : List Char) : ¬ ['*', '/'] <:+: commentSafe raw := by
  fun_induction commentSafe raw with
  | case1 r ih =>
    simp only [List.infix_cons_iff, List.cons_prefix_cons]
    simp_all
  | case2 c r fresh ih =>
    simp only [List.infix_cons_iff, ih, or_false]
    rintro ⟨t, ht⟩
    simp only [List.cons_append, List.cons.injEq] at ht
    obtain ⟨rfl, ht⟩ := ht
    have hd := head?_commentSafe r
    rw [← ht] at hd
    cases r with
    | nil => simp at hd
    | cons d rest =>
      simp only [List.head?_cons, List.nil_append, Option.some.injEq] at hd
      exact fresh rest rfl (by rw [hd])
  | case3 => simp

end Declaration

end ObjcImage
