import SimpleVpn.Lib.Simulation

/-!
# Programs on a heap

A heap is a list of blocks, and a pointer is the place of a block in it. A freed block keeps its place,
so a pointer to it stays invalid. A program that touches or frees a block that is not allocated returns
nothing. Such a program refines one that passes the contents of the blocks by value.
-/

namespace CLang

abbrev Ptr := Nat

abbrev Heap := List (Option Buf)

/-- The contents of the blocks that are still allocated. -/
def Heap.live (h : Heap) : List Buf := h.filterMap id

lemma Heap.live_append (h t : Heap) : Heap.live (h ++ t) = h.live ++ Heap.live t :=
  List.filterMap_append

/-- A program on a heap: its value and the new heap, or nothing after an invalid use of a pointer. -/
def HeapProg {Call : Type} (Reply : Call → Type) (α : Type) : Type :=
  Heap → Prog Reply (Option (α × Heap))

namespace HeapProg

variable {Call : Type} {Reply : Call → Type} {σ α β γ : Type}

instance : Monad (HeapProg Reply) where
  pure a := fun h => pure (some (a, h))
  bind m f := fun h => m h >>= fun r => match r with
    | none => pure none
    | some (a, h') => f a h'

instance : LawfulMonad (HeapProg Reply) := by
  refine LawfulMonad.mk' _ (fun m => ?_) (fun _ _ => rfl) (fun m f g => ?_)
  · funext h
    refine (bind_congr fun r => ?_).trans (bind_pure (m h))
    cases r <;> rfl
  · funext h
    refine (bind_assoc (m h) _ _).trans (bind_congr fun r => ?_)
    cases r <;> rfl

/-- A program that does not use the heap. -/
def lift (p : Prog Reply α) : HeapProg Reply α := fun h => p >>= fun a => pure (some (a, h))

instance : MonadLift (Prog Reply) (HeapProg Reply) where
  monadLift := lift

def alloc (b : Buf) : HeapProg Reply Ptr := fun h => pure (some (h.length, h ++ [some b]))

def calloc (n : Nat) : HeapProg Reply Ptr := alloc (CLang.calloc n)

/-- The contents of a new block are not determined: `junk` says what a block holds when it is
allocated. -/
def malloc (junk : Ptr → Nat → Buf) (n : Nat) : HeapProg Reply Ptr := fun h => alloc (junk h.length n) h

def free (i : Ptr) : HeapProg Reply Unit := fun h =>
  match h[i]? with
  | some (some _) => pure (some ((), h.set i none))
  | _ => pure none

def contents (i : Ptr) : HeapProg Reply Buf := fun h =>
  match h[i]? with
  | some (some b) => pure (some (b, h))
  | _ => pure none

/-- A computation on the contents of a block, in place. -/
def update (i : Ptr) (f : Buf → Mem Buf) : HeapProg Reply Unit := fun h =>
  match h[i]? with
  | some (some b) => Prog.ofMem (f b) >>= fun b' => pure (some ((), h.set i (some b')))
  | _ => pure none

section Rules

variable {i : Ptr} {b : Buf} {h : Heap}

lemma bind_apply (m : HeapProg Reply α) (f : α → HeapProg Reply β) (h : Heap) :
    (m >>= f) h = m h >>= fun r => match r with
      | none => pure none
      | some (a, h') => f a h' := rfl

@[simp] lemma pure_apply (a : α) : (pure a : HeapProg Reply α) h = pure (some (a, h)) := rfl

@[simp] lemma liftM_prog (p : Prog Reply α) : (liftM p : HeapProg Reply α) = lift p := rfl

@[simp] lemma liftM_mem (m : Mem α) : (liftM m : HeapProg Reply α) = lift (Prog.ofMem m) := rfl

/-- The pointer is written as the first of those behind `h`. -/
lemma calloc_bind (n : Nat) (f : Ptr → HeapProg Reply β) :
    (calloc n >>= f) h = f (h.length + 0) (h ++ [some (CLang.calloc n)]) := rfl

lemma malloc_bind (junk : Ptr → Nat → Buf) (n : Nat) (f : Ptr → HeapProg Reply β) :
    (malloc junk n >>= f) h = f (h.length + 0) (h ++ [some (junk h.length n)]) := rfl

/-- A part whose value and heap are functions of the value of a program without heap. -/
lemma bind_of_eq {m : HeapProg Reply β} {p : Prog Reply α} {g : α → β} {k : α → Heap}
    (hm : m h = p >>= fun a => pure (some (g a, k a))) (f : β → HeapProg Reply γ) :
    (m >>= f) h = p >>= fun a => f (g a) (k a) := by
  rw [bind_apply, hm, bind_assoc]
  rfl

@[simp] lemma lift_bind (p : Prog Reply α) (f : α → HeapProg Reply β) :
    (lift p >>= f) h = p >>= fun a => f a h :=
  bind_of_eq rfl f

lemma free_bind (hi : h[i]? = some (some b)) (f : Unit → HeapProg Reply β) :
    (free i >>= f) h = f () (h.set i none) := by
  rw [bind_apply, free, hi]
  rfl

lemma contents_bind (hi : h[i]? = some (some b)) (f : Buf → HeapProg Reply β) :
    (contents i >>= f) h = f b h := by
  rw [bind_apply, contents, hi]
  rfl

lemma update_bind (hi : h[i]? = some (some b)) (g : Buf → Mem Buf) (f : Unit → HeapProg Reply β) :
    (update i g >>= f) h = Prog.ofMem (g b) >>= fun b' => f () (h.set i (some b')) := by
  rw [bind_apply, update, hi]
  dsimp only
  rw [bind_assoc]
  rfl

end Rules

section Blocks

variable (h : Heap) (t : List (Option Buf)) (n : Nat)

lemma getElem?_extended : (h ++ t)[h.length + n]? = t[n]? := by
  rw [List.getElem?_append_right (Nat.le_add_right _ _), Nat.add_sub_cancel_left]

lemma set_extended (x : Option Buf) : (h ++ t).set (h.length + n) x = h ++ t.set n x := by
  rw [List.set_append_right _ _ (Nat.le_add_right _ _), Nat.add_sub_cancel_left]

variable {t n} {b : Buf}

/-- The rules for the block `n` of those that were allocated behind `h`. -/
lemma free_extended (hn : t[n]? = some (some b)) (f : Unit → HeapProg Reply β) :
    (free (h.length + n) >>= f) (h ++ t) = f () (h ++ t.set n none) := by
  rw [free_bind ((getElem?_extended h t n).trans hn), set_extended]

lemma contents_extended (hn : t[n]? = some (some b)) (f : Buf → HeapProg Reply β) :
    (contents (h.length + n) >>= f) (h ++ t) = f b (h ++ t) :=
  contents_bind ((getElem?_extended h t n).trans hn) f

lemma update_extended (hn : t[n]? = some (some b)) (g : Buf → Mem Buf)
    (f : Unit → HeapProg Reply β) :
    (update (h.length + n) g >>= f) (h ++ t) =
      Prog.ofMem (g b) >>= fun b' => f () (h ++ t.set n (some b')) := by
  rw [update_bind ((getElem?_extended h t n).trans hn)]
  simp only [set_extended]

lemma calloc_extended (m : Nat) (f : Ptr → HeapProg Reply β) :
    (calloc m >>= f) (h ++ t) = f (h.length + t.length) (h ++ (t ++ [some (CLang.calloc m)])) := by
  rw [calloc_bind, List.length_append, List.append_assoc]
  rfl

lemma malloc_extended (junk : Ptr → Nat → Buf) (m : Nat) (f : Ptr → HeapProg Reply β) :
    (malloc junk m >>= f) (h ++ t) =
      f (h.length + t.length) (h ++ (t ++ [some (junk (h.length + t.length) m)])) := by
  rw [malloc_bind, List.length_append, List.append_assoc]
  rfl

end Blocks

/-- From every heap, the program on the heap makes the calls of the program on values and returns its
value, so it never uses a pointer invalidly. -/
def Implements (m : HeapProg Reply α) (p : Prog Reply α) : Prop :=
  ∀ h, Option.map Prod.fst <$> m h = some <$> p

lemma Implements.of_simulates {next : σ → (c : Call) → Reply c → σ}
    {R : Heap → σ → α → Option (α × Heap) → Prop} {s : σ} {m : HeapProg Reply α} {p : Prog Reply α}
    (h : ∀ h, Prog.Simulates next (R h) s p (m h))
    (hR : ∀ h s a r, R h s a r → r.map Prod.fst = some a) : Implements m p :=
  fun x => ((h x).mono fun s a r hr => (hR x s a r hr).symm).map_eq.symm

end HeapProg

end CLang
