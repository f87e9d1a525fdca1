import GameServers.Frame
import GameServers.Proofs.Bytes

namespace GameServers

namespace Frame

/-- Where the frames of a stream come to an end. -/
inductive Stop
  /-- Between two frames, or within a size. -/
  | between
  | within
  | oversized (size : Int32)
  deriving DecidableEq, Repr

def IsSize (n : Int32) : Prop := 0 ≤ n.toInt ∧ n.toInt ≤ 2 ^ 20

/-- The frames of a stream, and where they end. -/
inductive Cuts : Bytes → List Bytes → Stop → Prop
  | frame (n : Int32) (body rest : Bytes) (frames : List Bytes) (stop : Stop) (hn : IsSize n)
      (hb : (body.length : Int) = n.toInt) (h : Cuts rest frames stop) :
    Cuts (Bytes.ofInt32 n ++ body ++ rest) ((Bytes.ofInt32 n ++ body) :: frames) stop
  | oversized (n : Int32) (rest : Bytes) (hn : ¬ IsSize n) :
    Cuts (Bytes.ofInt32 n ++ rest) [] (.oversized n)
  | within (n : Int32) (body : Bytes) (hn : IsSize n) (hb : (body.length : Int) < n.toInt) :
    Cuts (Bytes.ofInt32 n ++ body) [] .within
  | between (bs : Bytes) (h : bs.length < 4) : Cuts bs [] .between

theorem Cuts.append {bs : Bytes} {frames : List Bytes} {n : Int32}
    (h : Cuts bs frames (.oversized n)) (more : Bytes) : Cuts (bs ++ more) frames (.oversized n) := by
  generalize hs : Stop.oversized n = stop at h
  induction h with
  | frame n' body rest frames stop hn hb _ ih =>
    rw [List.append_assoc]
    exact .frame n' body (rest ++ more) frames stop hn hb (ih hs)
  | oversized n' rest hn =>
    rw [List.append_assoc]
    exact .oversized n' (rest ++ more) hn
  | within => cases hs
  | between => cases hs

theorem isSize_iff {n : Int32} : isSize maxSize n = true ↔ IsSize n := by
  simp only [isSize, Bool.and_eq_true, decide_eq_true_eq, IsSize]
  rfl

section

variable {n : Int32} {body rest : Bytes}

theorem not_length_lt (n : Int32) (bs : Bytes) : ¬ (Bytes.ofInt32 n ++ bs).length < 4 := by
  rw [List.length_append, Bytes.length_ofInt32]
  omega

theorem front_of_short {bs : Bytes} (h : bs.length < 4) : front maxSize bs = .unfinished := if_pos h

theorem front_ofInt32 (n : Int32) (bs : Bytes) : front maxSize (Bytes.ofInt32 n ++ bs) =
    if isSize maxSize n then
      if bs.length < n.toInt.toNat then .unfinished
      else .frame (Bytes.ofInt32 n ++ bs.take n.toInt.toNat) (bs.drop n.toInt.toNat)
    else .oversized n := by
  have hlen := Bytes.length_ofInt32 n
  have htake : (Bytes.ofInt32 n ++ bs).take 4 = Bytes.ofInt32 n := by rw [← hlen, List.take_left]
  have hcut (k : Nat) : (Bytes.ofInt32 n ++ bs).take (4 + k) = Bytes.ofInt32 n ++ bs.take k := by
    rw [← hlen, List.take_length_add_append]
  have hdrop (k : Nat) : (Bytes.ofInt32 n ++ bs).drop (4 + k) = bs.drop k := by
    rw [← hlen, List.drop_length_add_append]
  rw [front, if_neg (not_length_lt n bs)]
  simp only [htake, Bytes.toInt32_ofInt32, hcut, hdrop, List.length_append, hlen,
    Nat.add_lt_add_iff_left]

theorem front_of_frame (hn : IsSize n) (hb : (body.length : Int) = n.toInt) :
    front maxSize (Bytes.ofInt32 n ++ body ++ rest) = .frame (Bytes.ofInt32 n ++ body) rest := by
  have hlen : n.toInt.toNat = body.length := by omega
  rw [List.append_assoc, front_ofInt32, if_pos (isSize_iff.2 hn), hlen, if_neg, List.take_left,
    List.drop_left]
  rw [List.length_append]
  omega

theorem front_of_oversized (hn : ¬ IsSize n) :
    front maxSize (Bytes.ofInt32 n ++ rest) = .oversized n := by
  rw [front_ofInt32, if_neg]
  rwa [isSize_iff]

theorem front_of_within (hn : IsSize n) (hb : (body.length : Int) < n.toInt) :
    front maxSize (Bytes.ofInt32 n ++ body) = .unfinished := by
  rw [front_ofInt32, if_pos (isSize_iff.2 hn), if_pos]
  omega

end

theorem exists_front (bs : Bytes) : bs.length < 4 ∨ ∃ n more, bs = Bytes.ofInt32 n ++ more ∧
    (¬ IsSize n ∨ IsSize n ∧ ((more.length : Int) < n.toInt ∨
      ∃ body rest, more = body ++ rest ∧ (body.length : Int) = n.toInt)) := by
  by_cases hlen : bs.length < 4
  · exact .inl hlen
  · have hsize : Bytes.ofInt32 (Bytes.toInt32 (bs.take 4)) = bs.take 4 := by
      apply Bytes.ofInt32_toInt32
      rw [List.length_take]
      omega
    refine .inr ⟨Bytes.toInt32 (bs.take 4), bs.drop 4, ?_, ?_⟩
    · rw [hsize, List.take_append_drop]
    · generalize Bytes.toInt32 (bs.take 4) = n
      by_cases hn : IsSize n
      · refine .inr ⟨hn, ?_⟩
        by_cases hb : ((bs.drop 4).length : Int) < n.toInt
        · exact .inl hb
        · refine .inr ⟨(bs.drop 4).take n.toInt.toNat, (bs.drop 4).drop n.toInt.toNat, ?_, ?_⟩
          · rw [List.take_append_drop]
          · have hpos := hn.1
            rw [List.length_take]
            omega
      · exact .inl hn

theorem split_of_frame {bs whole rest : Bytes} (h : front maxSize bs = .frame whole rest) :
    split maxSize bs = (whole :: (split maxSize rest).1, (split maxSize rest).2) := by
  rw [split]
  split
  · next w r hf =>
    obtain ⟨rfl, rfl⟩ := Front.frame.inj (hf.symm.trans h)
    rfl
  · next hf => exact absurd h (hf whole rest)

theorem split_of_not_frame {bs : Bytes} (h : ∀ whole rest, front maxSize bs ≠ .frame whole rest) :
    split maxSize bs = ([], front maxSize bs, bs) := by
  rw [split]
  split
  · next w r hf => exact absurd hf (h w r)
  · rfl

end Frame

namespace Frames

open GameServers.Frame

/-- Where a stream stops if it ends now. -/
def stop (f : Frames) : Stop :=
  match f.broken with
  | some n => .oversized n
  | none => if f.buffer.length < 4 then .between else .within

theorem feed_broken {f : Frames} {n : Int32} (h : f.broken = some n) (piece : Bytes) :
    f.feed piece = (f, []) := by
  simp only [feed, h]

theorem feed_buffer {f : Frames} (h : f.broken = none) (piece : Bytes) :
    f.feed piece = ({} : Frames).feed (f.buffer ++ piece) := by
  simp only [feed, h, List.nil_append]

theorem feed_of_not_frame {bs : Bytes} (h : ∀ whole rest, front maxSize bs ≠ .frame whole rest) :
    ({} : Frames).feed bs = match front maxSize bs with
      | .oversized n => (⟨[], some n⟩, [])
      | _ => (⟨bs, none⟩, []) := by
  have hs := split_of_not_frame h
  cases hf : front maxSize bs <;> simp only [feed, List.nil_append, hs, hf]

theorem feed_short {bs : Bytes} (h : bs.length < 4) : ({} : Frames).feed bs = (⟨bs, none⟩, []) := by
  have hf := front_of_short h
  rw [feed_of_not_frame (by simp [hf]), hf]

section

variable {n : Int32} {body rest : Bytes}

theorem feed_frame (hn : IsSize n) (hb : (body.length : Int) = n.toInt) :
    ({} : Frames).feed (Bytes.ofInt32 n ++ body ++ rest) =
      ((({} : Frames).feed rest).1, (Bytes.ofInt32 n ++ body) :: (({} : Frames).feed rest).2) := by
  simp only [feed, List.nil_append, split_of_frame (front_of_frame hn hb)]
  obtain ⟨frames, last, left⟩ := split maxSize rest
  cases last <;> rfl

theorem feed_oversized (hn : ¬ IsSize n) :
    ({} : Frames).feed (Bytes.ofInt32 n ++ rest) = (⟨[], some n⟩, []) := by
  have hf : front maxSize (Bytes.ofInt32 n ++ rest) = .oversized n := front_of_oversized hn
  rw [feed_of_not_frame (by simp [hf]), hf]

theorem feed_within (hn : IsSize n) (hb : (body.length : Int) < n.toInt) :
    ({} : Frames).feed (Bytes.ofInt32 n ++ body) = (⟨Bytes.ofInt32 n ++ body, none⟩, []) := by
  have hf := front_of_within hn hb
  rw [feed_of_not_frame (by simp [hf]), hf]

end

/-- Feeding finds the frames of the stream and where they end. -/
theorem cuts_feed (bs : Bytes) :
    Cuts bs (({} : Frames).feed bs).2 (({} : Frames).feed bs).1.stop := by
  -- A whole frame at the front leaves a shorter stream. The other fronts are the ends.
  induction hlen : bs.length using Nat.strong_induction_on generalizing bs with
  | _ k ih =>
    rcases exists_front bs with hshort | ⟨n, more, rfl, hn | ⟨hn, hb | ⟨body, rest, rfl, hb⟩⟩⟩
    · rw [feed_short hshort]
      simp only [stop, if_pos hshort]
      exact .between bs hshort
    · rw [feed_oversized hn]
      exact .oversized n more hn
    · rw [feed_within hn hb]
      simp only [stop, if_neg (not_length_lt n more)]
      exact .within n more hn hb
    · rw [← List.append_assoc, feed_frame hn hb]
      have hshorter : rest.length < k := by
        rw [← hlen, List.length_append, List.length_append, Bytes.length_ofInt32]
        omega
      exact .frame n body rest _ _ hn hb (ih rest.length hshorter rest rfl)

theorem eq_feed_of_cuts {bs : Bytes} {frames : List Bytes} {s : Stop} (h : Cuts bs frames s) :
    (({} : Frames).feed bs).2 = frames ∧ (({} : Frames).feed bs).1.stop = s := by
  induction h with
  | frame n body rest frames s hn hb _ ih =>
    rw [feed_frame hn hb, ih.1]
    exact ⟨rfl, ih.2⟩
  | oversized n rest hn =>
    rw [feed_oversized hn]
    exact ⟨rfl, rfl⟩
  | within n body hn hb =>
    rw [feed_within hn hb]
    simp only [stop, if_neg (not_length_lt n body), and_self]
  | between bs hshort =>
    rw [feed_short hshort]
    exact ⟨rfl, if_pos hshort⟩

theorem feed_fresh_append (xs ys : Bytes) : ({} : Frames).feed (xs ++ ys) =
    (((({} : Frames).feed xs).1.feed ys).1,
      (({} : Frames).feed xs).2 ++ ((({} : Frames).feed xs).1.feed ys).2) := by
  induction hlen : xs.length using Nat.strong_induction_on generalizing xs with
  | _ k ih =>
    rcases exists_front xs with hshort | ⟨n, more, rfl, hn | ⟨hn, hb | ⟨body, rest, rfl, hb⟩⟩⟩
    · rw [feed_short hshort, feed_buffer (f := ⟨xs, none⟩) rfl]
      rfl
    · rw [List.append_assoc, feed_oversized hn, feed_oversized hn, feed_broken rfl]
      rfl
    · rw [feed_within hn hb, feed_buffer (f := ⟨Bytes.ofInt32 n ++ more, none⟩) rfl]
      rfl
    · have hshorter : rest.length < k := by
        rw [← hlen, List.length_append, List.length_append, Bytes.length_ofInt32]
        omega
      rw [← List.append_assoc, List.append_assoc, feed_frame hn hb, feed_frame hn hb,
        ih rest.length hshorter rest rfl]
      rfl

theorem feed_append (f : Frames) (xs ys : Bytes) :
    f.feed (xs ++ ys) = (((f.feed xs).1.feed ys).1, (f.feed xs).2 ++ ((f.feed xs).1.feed ys).2) := by
  cases hf : f.broken with
  | some n => simp only [feed_broken hf, List.append_nil]
  | none => rw [feed_buffer hf, feed_buffer hf, ← List.append_assoc, feed_fresh_append]

end Frames

namespace Frame

theorem Cuts.unique {bs : Bytes} {frames frames' : List Bytes} {stop stop' : Stop}
    (h : Cuts bs frames stop) (h' : Cuts bs frames' stop') : frames = frames' ∧ stop = stop' := by
  obtain ⟨rfl, rfl⟩ := Frames.eq_feed_of_cuts h
  exact Frames.eq_feed_of_cuts h'

end Frame

end GameServers
