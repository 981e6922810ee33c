import MockScaffold.Proofs.TypeExpr.ParsedForm

/-!
The tree of a type has one line for each type that a walk visits, in the same
order, and nothing is lost in it: a line tells the depth, the name and the marker
of its node, and the depths along a walk tell which type stands inside which.
Types that were read have the same tree only if they are the same type.
-/

namespace MockScaffold.TypeExpr
open Text

/-- Whether the walk of the `j`-th type visited reaches as far as the `i`-th. -/
def reaches (visited : List TypeExpr) (i j : Nat) : Bool :=
  visited[j]?.any fun u => i < j + u.walk.length

/-- How many types the `i`-th type visited stands inside: those before it whose own walks reach as
far. -/
def enclosing (visited : List TypeExpr) (i : Nat) : Nat :=
  (List.range i).countP (reaches visited i)

/-- All walks of types that are visited end among these. -/
def Confined (visited : List TypeExpr) : Prop :=
  ∀ j u, visited[j]? = some u → j + u.walk.length ≤ visited.length

section
variable {visited more : List TypeExpr} {i j : Nat}

theorem reaches_cons (u : TypeExpr) :
    reaches (u :: visited) (i + 1) (j + 1) = reaches visited i j := by
  simp only [reaches, List.getElem?_cons_succ, Nat.add_right_comm j 1, Nat.add_lt_add_iff_right]

theorem reaches_append_left (inside : j < visited.length) :
    reaches (visited ++ more) i j = reaches visited i j := by
  rw [reaches, reaches, List.getElem?_append_left inside]

theorem reaches_append_right :
    reaches (visited ++ more) (visited.length + i) (visited.length + j) = reaches more i j := by
  simp only [reaches, List.getElem?_append_right (Nat.le_add_right _ _), Nat.add_sub_cancel_left,
    Nat.add_assoc, Nat.add_lt_add_iff_left]

theorem enclosing_cons (u : TypeExpr) (i : Nat) :
    enclosing (u :: visited) (i + 1) =
      enclosing visited i + if i + 1 < u.walk.length then 1 else 0 := by
  rw [enclosing, List.range_succ_eq_map, List.countP_cons, List.countP_map]
  congr 1
  · exact List.countP_congr fun j _ => by simp [reaches_cons]
  · simp [reaches]

theorem enclosing_append_left (inside : i ≤ visited.length) :
    enclosing (visited ++ more) i = enclosing visited i := by
  refine List.countP_congr fun j before => ?_
  rw [reaches_append_left (Nat.lt_of_lt_of_le (List.mem_range.1 before) inside)]

theorem Confined.not_reaches (confined : Confined visited) (i j : Nat) :
    reaches visited (visited.length + i) j = false := by
  rw [reaches]
  cases there : visited[j]? with
  | none => rfl
  | some u =>
    have ends := confined j u there
    simp only [Option.any_some, decide_eq_false_iff_not]
    omega

theorem enclosing_append_right (confined : Confined visited) (i : Nat) :
    enclosing (visited ++ more) (visited.length + i) = enclosing more i := by
  rw [enclosing, List.range_add, List.countP_append, List.countP_map]
  have front : (List.range visited.length).countP
      (reaches (visited ++ more) (visited.length + i)) = 0 := by
    rw [List.countP_eq_zero]
    intro j before
    rw [reaches_append_left (List.mem_range.1 before), confined.not_reaches]
    exact Bool.false_ne_true
  rw [front, Nat.zero_add]
  exact List.countP_congr fun j _ => by simp [reaches_append_right]

theorem Confined.append (first : Confined visited) (second : Confined more) :
    Confined (visited ++ more) := by
  intro j u there
  rw [List.length_append]
  rcases Nat.lt_or_ge j visited.length with inside | behind
  · rw [List.getElem?_append_left inside] at there
    have ends := first j u there
    omega
  · rw [List.getElem?_append_right behind] at there
    have ends := second _ u there
    omega

end

mutual

theorem confined_walk : ∀ t : TypeExpr, Confined t.walk
  | .node name nullable arguments, 0, u, there => by
    rw [walk, List.getElem?_cons_zero] at there
    exact Nat.le_of_eq (by rw [← Option.some.inj there, Nat.zero_add])
  | .node name nullable arguments, j + 1, u, there => by
    rw [walk, List.getElem?_cons_succ] at there
    have ends := confined_walkAll arguments j u there
    rw [walk, List.length_cons]
    omega

theorem confined_walkAll : ∀ ts : List TypeExpr, Confined (walkAll ts)
  | [], _, _, there => by cases there
  | t :: ts, j, u, there => ((confined_walk t).append (confined_walkAll ts)) j u there

end

mutual

/-- The nodes with their depths, told by the walk alone. -/
theorem nodesAt_eq : ∀ (t : TypeExpr) (depth : Nat),
    nodesAt depth t = t.walk.mapIdx fun i u => (depth + enclosing t.walk i, u)
  | .node name nullable arguments, depth => by
    rw [nodesAt, nodesOfAt_eq arguments, walk, List.mapIdx_cons]
    congr 1
    refine List.mapIdx_eq_mapIdx_iff.2 fun i inside => ?_
    have own : i + 1 < (walk (.node name nullable arguments)).length := by
      rw [walk, List.length_cons]
      omega
    rw [enclosing_cons, if_pos own, Nat.add_assoc, Nat.add_comm 1]

theorem nodesOfAt_eq : ∀ (ts : List TypeExpr) (depth : Nat),
    nodesOfAt depth ts = (walkAll ts).mapIdx fun i u => (depth + enclosing (walkAll ts) i, u)
  | [], _ => rfl
  | t :: ts, depth => by
    rw [nodesOfAt, nodesAt_eq t, nodesOfAt_eq ts, walkAll, List.mapIdx_append]
    congr 1
    · refine List.mapIdx_eq_mapIdx_iff.2 fun i inside => ?_
      rw [enclosing_append_left (Nat.le_of_lt inside)]
    · refine List.mapIdx_eq_mapIdx_iff.2 fun i inside => ?_
      rw [Nat.add_comm i, enclosing_append_right (confined_walk t)]

end

/-- The depths in `Map<String, List<Data>>`, in the order in which the names are written. -/
example : (List.range 4).map (enclosing (walk (.node "Map" false
    [.node "String" false [], .node "List" false [.node "Data" false []]]))) = [0, 1, 1, 2] := by
  decide

theorem treeLines_eq (t : TypeExpr) :
    t.treeLines = t.walk.mapIdx fun i u => treeLine (enclosing t.walk i) u := by
  rw [treeLines, nodes, nodesAt_eq]
  simp only [List.mapIdx_eq_zipIdx_map, List.map_map, Function.comp_def, Nat.zero_add]

theorem mem_walk_of_mem_nodesAt {t : TypeExpr} {depth : Nat} {p : Nat × TypeExpr}
    (among : p ∈ t.nodesAt depth) : p.2 ∈ t.walk := by
  rw [nodesAt_eq] at among
  obtain ⟨i, inside, rfl⟩ := List.mem_mapIdx.1 among
  exact List.getElem_mem inside

/-- What stands behind the name in a line. -/
def ending (kind : Kind) (nullable : Bool) : List Char :=
  (" (" ++ (kind.word ++ if nullable then ", nullable" else "") ++ ")").toList

/-- The end of a line tells what stands behind the name, whatever the name ends with. -/
theorem ending_suffixFree {kind other : Kind} {nullable marked : Bool}
    (suffix : ending kind nullable <:+ ending other marked) : kind = other ∧ nullable = marked := by
  revert suffix
  cases kind <;> cases other <;> cases nullable <;> cases marked <;> decide

theorem append_ending_inj {name again : List Char} {kind other : Kind} {nullable marked : Bool}
    (same : name ++ ending kind nullable = again ++ ending other marked) :
    name = again ∧ nullable = marked := by
  have endings : kind = other ∧ nullable = marked := by
    rcases List.append_eq_append_iff.1 same with ⟨middle, -, longer⟩ | ⟨middle, -, longer⟩
    · obtain ⟨kinds, markers⟩ := ending_suffixFree ⟨middle, longer.symm⟩
      exact ⟨kinds.symm, markers.symm⟩
    · exact ending_suffixFree ⟨middle, longer.symm⟩
  obtain ⟨rfl, rfl⟩ := endings
  exact ⟨List.append_cancel_right same, rfl⟩

theorem replicate_append_inj {c : Char} {m n : Nat} {xs ys : List Char} (first : xs.head? ≠ some c)
    (second : ys.head? ≠ some c) (same : List.replicate m c ++ xs = List.replicate n c ++ ys) :
    m = n ∧ xs = ys := by
  induction m generalizing n with
  | zero =>
    cases n with
    | zero => exact ⟨rfl, same⟩
    | succ n => exact absurd (congrArg List.head? same) first
  | succ m ih =>
    cases n with
    | zero => exact absurd (congrArg List.head? same).symm second
    | succ n =>
      obtain ⟨counts, rest⟩ := ih (List.cons.inj same).2
      exact ⟨congrArg Nat.succ counts, rest⟩

theorem toList_treeLine (depth : Nat) (t : TypeExpr) :
    (treeLine depth t).toList =
      List.replicate (2 * depth) ' ' ++ (t.name.toList ++ ending t.kind t.nullable) := by
  simp [treeLine, remark, ending]

theorem ProperName.head?_append_ne_blank {name : List Char} (proper : ProperName name)
    (more : List Char) : (name ++ more).head? ≠ some ' ' := by
  obtain ⟨c, rest, rfl⟩ := List.exists_cons_of_ne_nil proper.nonempty
  intro blank
  have plain := proper.tight.first c rfl
  rw [Option.some.inj blank] at plain
  exact absurd plain (by decide)

/-- A line tells the depth, the name and the marker of its node. -/
theorem treeLine_inj {depth level : Nat} {t u : TypeExpr} (proper : ProperName t.name.toList)
    (other : ProperName u.name.toList) (same : treeLine depth t = treeLine level u) :
    depth = level ∧ t.name = u.name ∧ t.nullable = u.nullable := by
  have texts := congrArg String.toList same
  rw [toList_treeLine, toList_treeLine] at texts
  obtain ⟨columns, rest⟩ := replicate_append_inj (proper.head?_append_ne_blank _)
    (other.head?_append_ne_blank _) texts
  obtain ⟨names, markers⟩ := append_ending_inj rest
  exact ⟨by omega, String.toList_inj.1 names, markers⟩

/-! ## What the depths tell -/

def told (p : Nat × TypeExpr) : Nat × String × Bool := (p.1, p.2.name, p.2.nullable)

/-- What follows the nodes that stand inside `depth` types or more: it starts further outside. -/
def Outside (depth : Nat) (rest : List (Nat × String × Bool)) : Prop :=
  ∀ x ∈ rest.head?, x.1 < depth

theorem outside_nodesOfAt {depth : Nat} {rest : List (Nat × String × Bool)}
    (outside : Outside depth rest) (ts : List TypeExpr) :
    Outside (depth + 1) ((nodesOfAt depth ts).map told ++ rest) := by
  cases ts with
  | nil => exact fun x first => Nat.lt_succ_of_lt (outside x first)
  | cons t ts =>
    obtain ⟨name, nullable, arguments⟩ := t
    intro x first
    cases first
    exact Nat.lt_succ_self depth

theorem not_outside_nodesAt {depth : Nat} {t : TypeExpr} {rest : List (Nat × String × Bool)} :
    ¬ Outside depth ((nodesAt depth t).map told ++ rest) := by
  obtain ⟨name, nullable, arguments⟩ := t
  exact fun outside => Nat.lt_irrefl depth (outside _ rfl)

mutual

/-- A type is determined by what is told of its nodes, in front of anything further outside. -/
theorem eq_of_told : ∀ (t u : TypeExpr) {depth : Nat} {rest more : List (Nat × String × Bool)},
    Outside (depth + 1) rest → Outside (depth + 1) more →
    (nodesAt depth t).map told ++ rest = (nodesAt depth u).map told ++ more → t = u ∧ rest = more
  | .node name nullable arguments, .node other marked inner, depth, rest, more, outside, beyond,
      same => by
    obtain ⟨heads, tails⟩ := List.cons.inj same
    obtain ⟨arguments, rests⟩ := eq_of_toldAll arguments inner outside beyond tails
    cases heads
    exact ⟨by rw [arguments], rests⟩

theorem eq_of_toldAll : ∀ (ts us : List TypeExpr) {depth : Nat}
    {rest more : List (Nat × String × Bool)}, Outside depth rest → Outside depth more →
    (nodesOfAt depth ts).map told ++ rest = (nodesOfAt depth us).map told ++ more →
      ts = us ∧ rest = more
  | [], [], _, _, _, _, _, same => ⟨rfl, same⟩
  | [], u :: us, depth, rest, more, outside, _, same => by
    rw [nodesOfAt, nodesOfAt, List.map_nil, List.nil_append, List.map_append,
      List.append_assoc] at same
    exact absurd (same ▸ outside) not_outside_nodesAt
  | t :: ts, [], depth, rest, more, _, beyond, same => by
    rw [nodesOfAt, nodesOfAt, List.map_nil, List.nil_append, List.map_append,
      List.append_assoc] at same
    exact absurd (same ▸ beyond) not_outside_nodesAt
  | t :: ts, u :: us, depth, rest, more, outside, beyond, same => by
    rw [nodesOfAt, nodesOfAt, List.map_append, List.map_append, List.append_assoc,
      List.append_assoc] at same
    obtain ⟨heads, tails⟩ := eq_of_told t u (outside_nodesOfAt outside ts)
      (outside_nodesOfAt beyond us) same
    obtain ⟨others, rests⟩ := eq_of_toldAll ts us outside beyond tails
    exact ⟨by rw [heads, others], rests⟩

end

theorem map_eq_map_of_apart {α β γ : Type} {f : α → β} {h : α → γ} {xs ys : List α}
    (apart : ∀ x ∈ xs, ∀ y ∈ ys, f x = f y → h x = h y) (same : xs.map f = ys.map f) :
    xs.map h = ys.map h := by
  induction xs generalizing ys with
  | nil =>
    cases ys with
    | nil => rfl
    | cons y ys => cases same
  | cons x xs ih =>
    cases ys with
    | nil => cases same
    | cons y ys =>
      obtain ⟨heads, tails⟩ := List.cons.inj same
      have later := ih (fun x among y beside =>
        apart x (List.mem_cons_of_mem _ among) y (List.mem_cons_of_mem _ beside)) tails
      rw [List.map_cons, List.map_cons, later,
        apart x List.mem_cons_self y List.mem_cons_self heads]

theorem treeLines_inj {t u : TypeExpr} (named : t.WellNamed) (others : u.WellNamed)
    (same : t.treeLines = u.treeLines) : t = u := by
  have nodes : t.nodes.map told = u.nodes.map told := by
    refine map_eq_map_of_apart (fun p among q beside line => ?_) same
    obtain ⟨depths, names, markers⟩ := treeLine_inj (named p.2 (mem_walk_of_mem_nodesAt among))
      (others q.2 (mem_walk_of_mem_nodesAt beside)) line
    rw [told, told, depths, names, markers]
  have nothing : Outside 1 [] := by simp [Outside]
  exact (eq_of_told t u nothing nothing (congrArg (· ++ []) nodes)).1

theorem wellNamed_of_parse {s : String} {t : TypeExpr} (read : parse s = .ok t) : t.WellNamed :=
  (parseChars?_sound (parse_eq_ok_iff.1 read)).wellNamed

/-- The tree of a type has as many lines as a walk visits types, and the line of each is indented
by two spaces for each type around it and tells its name, its kind and whether it is nullable.
Types that were read have the same tree, line by line, only if they are the same. -/
theorem treeLines_lossless :
    (∀ (first second : String) (t u : TypeExpr), parse first = .ok t → parse second = .ok u →
      (t.treeLines = u.treeLines ↔ t = u)) ∧
    ∀ t : TypeExpr, t.treeLines.length = t.walk.length ∧
      ∀ i u, t.walk[i]? = some u → t.treeLines[i]? = some
        (String.ofList (List.replicate (2 * enclosing t.walk i) ' ') ++ u.name ++
          " (" ++ (if u.arguments.isEmpty then "specific" else "generic") ++
          (if u.nullable then ", nullable" else "") ++ ")") := by
  refine ⟨fun first second t u read also => ?_, fun t => ⟨?_, fun i u visited => ?_⟩⟩
  · refine ⟨treeLines_inj (wellNamed_of_parse read) (wellNamed_of_parse also), ?_⟩
    rintro rfl
    rfl
  · rw [treeLines_eq, List.length_mapIdx]
  · rw [treeLines_eq, List.getElem?_mapIdx, visited, Option.map_some, treeLine, remark, kind]
    split <;> simp [Kind.word, *, String.append_assoc]

/-- A name may end like a line. -/
theorem treeLines_lossless_name :
    parse "A (generic) <B>" = .ok (.node "A (generic)" false [.node "B" false []]) ∧
      parse "A< B>" = .ok (.node "A" false [.node "B" false []]) ∧
      treeLines (.node "A (generic)" false [.node "B" false []]) ≠
        treeLines (.node "A" false [.node "B" false []]) := by
  have read : parse "A (generic) <B>" = .ok (.node "A (generic)" false [.node "B" false []]) := by
    cbv
  have also : parse "A< B>" = .ok (.node "A" false [.node "B" false []]) := by cbv
  exact ⟨read, also, (treeLines_lossless.1 _ _ _ _ read also).not.2 (by decide)⟩

end MockScaffold.TypeExpr
