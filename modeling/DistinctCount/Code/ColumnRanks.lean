/-! The order in which a moving window ranks the columns outside it. The column
right of the window counts as 0; a phase maps each of the 56 columns, counted from
there, to its rank, so that the columns with many surprises get short codes. -/
namespace DistinctCount.ColumnOrder

def ranks0 : List Nat := [
  0, 1, 2, 3, 5, 6, 7, 8, 9, 10, 11, 12, 13, 15,
  16, 17, 18, 19, 20, 21, 22, 23, 24, 25, 26, 27, 28, 29,
  30, 31, 32, 33, 35, 36, 37, 38, 39, 40, 41, 42, 43, 44,
  45, 46, 47, 48, 49, 50, 51, 52, 53, 54, 55, 34, 14, 4]

def ranks1 : List Nat := [
  0, 1, 2, 3, 5, 6, 7, 8, 9, 10, 11, 12, 13, 14,
  16, 17, 18, 19, 20, 21, 22, 23, 24, 25, 26, 27, 28, 29,
  30, 31, 32, 33, 34, 36, 37, 38, 39, 40, 41, 42, 43, 44,
  45, 46, 47, 48, 49, 50, 51, 52, 53, 54, 55, 35, 15, 4]

def ranks2 : List Nat := [
  0, 1, 2, 3, 4, 6, 7, 8, 9, 10, 11, 12, 13, 14,
  15, 17, 18, 19, 20, 21, 22, 23, 24, 25, 26, 27, 28, 29,
  30, 31, 32, 33, 34, 35, 36, 38, 39, 40, 41, 42, 43, 44,
  45, 46, 47, 48, 49, 50, 51, 52, 53, 54, 55, 37, 16, 5]

def ranks3 : List Nat := [
  0, 1, 2, 3, 4, 6, 7, 8, 9, 10, 11, 12, 13, 14,
  15, 16, 18, 19, 20, 21, 22, 23, 24, 25, 26, 27, 28, 29,
  30, 31, 32, 33, 34, 35, 36, 37, 38, 40, 41, 42, 43, 44,
  45, 46, 47, 48, 49, 50, 51, 52, 53, 54, 55, 39, 17, 5]

def ranks4 : List Nat := [
  0, 1, 2, 3, 4, 5, 7, 8, 9, 10, 11, 12, 13, 14,
  15, 16, 17, 19, 20, 21, 22, 23, 24, 25, 26, 27, 28, 29,
  30, 31, 32, 33, 34, 35, 36, 37, 38, 39, 40, 42, 43, 44,
  45, 46, 47, 48, 49, 50, 51, 52, 53, 54, 55, 41, 18, 6]

def ranks5 : List Nat := [
  0, 1, 2, 3, 4, 5, 7, 8, 9, 10, 11, 12, 13, 14,
  15, 16, 17, 18, 20, 21, 22, 23, 24, 25, 26, 27, 28, 29,
  30, 31, 32, 33, 34, 35, 36, 37, 38, 39, 40, 41, 42, 44,
  45, 46, 47, 48, 49, 50, 51, 52, 53, 54, 55, 43, 19, 6]

def ranks6 : List Nat := [
  1, 2, 3, 4, 5, 6, 8, 9, 10, 11, 12, 13, 14, 15,
  16, 17, 18, 19, 21, 22, 23, 24, 25, 26, 27, 28, 29, 30,
  31, 32, 33, 34, 35, 36, 37, 38, 39, 40, 41, 42, 43, 44,
  46, 47, 48, 49, 50, 51, 52, 53, 54, 55, 45, 20, 7, 0]

def ranks7 : List Nat := [
  1, 2, 3, 4, 5, 6, 8, 9, 10, 11, 12, 13, 14, 15,
  16, 17, 18, 19, 20, 22, 23, 24, 25, 26, 27, 28, 29, 30,
  31, 32, 33, 34, 35, 36, 37, 38, 39, 40, 41, 42, 43, 44,
  45, 46, 48, 49, 50, 51, 52, 53, 54, 55, 47, 21, 7, 0]

def ranks8 : List Nat := [
  1, 2, 3, 4, 5, 6, 7, 9, 10, 11, 12, 13, 14, 15,
  16, 17, 18, 19, 20, 21, 23, 24, 25, 26, 27, 28, 29, 30,
  31, 32, 33, 34, 35, 36, 37, 38, 39, 40, 41, 42, 43, 44,
  45, 46, 47, 48, 49, 51, 52, 53, 54, 55, 50, 22, 8, 0]

def ranks9 : List Nat := [
  0, 2, 3, 4, 5, 6, 7, 8, 10, 11, 12, 13, 14, 15,
  16, 17, 18, 19, 20, 21, 22, 24, 25, 26, 27, 28, 29, 30,
  31, 32, 33, 34, 35, 36, 37, 38, 39, 40, 41, 42, 43, 44,
  45, 46, 47, 48, 49, 50, 51, 53, 54, 55, 52, 23, 9, 1]

def ranks10 : List Nat := [
  0, 2, 3, 4, 5, 6, 7, 8, 10, 11, 12, 13, 14, 15,
  16, 17, 18, 19, 20, 21, 22, 23, 24, 26, 27, 28, 29, 30,
  31, 32, 33, 34, 35, 36, 37, 38, 39, 40, 41, 42, 43, 44,
  45, 46, 47, 48, 49, 50, 51, 52, 53, 54, 55, 25, 9, 1]

def ranks11 : List Nat := [
  0, 2, 3, 4, 5, 6, 7, 8, 9, 11, 12, 13, 14, 15,
  16, 17, 18, 19, 20, 21, 22, 23, 24, 25, 27, 28, 29, 30,
  31, 32, 33, 34, 35, 36, 37, 38, 39, 40, 41, 42, 43, 44,
  45, 46, 47, 48, 49, 50, 51, 52, 53, 54, 55, 26, 10, 1]

def ranks12 : List Nat := [
  0, 1, 3, 4, 5, 6, 7, 8, 9, 10, 12, 13, 14, 15,
  16, 17, 18, 19, 20, 21, 22, 23, 24, 25, 26, 28, 29, 30,
  31, 32, 33, 34, 35, 36, 37, 38, 39, 40, 41, 42, 43, 44,
  45, 46, 47, 48, 49, 50, 51, 52, 53, 54, 55, 27, 11, 2]

def ranks13 : List Nat := [
  0, 1, 3, 4, 5, 6, 7, 8, 9, 10, 12, 13, 14, 15,
  16, 17, 18, 19, 20, 21, 22, 23, 24, 25, 26, 27, 28, 30,
  31, 32, 33, 34, 35, 36, 37, 38, 39, 40, 41, 42, 43, 44,
  45, 46, 47, 48, 49, 50, 51, 52, 53, 54, 55, 29, 11, 2]

def ranks14 : List Nat := [
  0, 1, 2, 4, 5, 6, 7, 8, 9, 10, 11, 13, 14, 15,
  16, 17, 18, 19, 20, 21, 22, 23, 24, 25, 26, 27, 28, 29,
  31, 32, 33, 34, 35, 36, 37, 38, 39, 40, 41, 42, 43, 44,
  45, 46, 47, 48, 49, 50, 51, 52, 53, 54, 55, 30, 12, 3]

def ranks15 : List Nat := [
  0, 1, 2, 4, 5, 6, 7, 8, 9, 10, 11, 12, 14, 15,
  16, 17, 18, 19, 20, 21, 22, 23, 24, 25, 26, 27, 28, 29,
  30, 31, 33, 34, 35, 36, 37, 38, 39, 40, 41, 42, 43, 44,
  45, 46, 47, 48, 49, 50, 51, 52, 53, 54, 55, 32, 13, 3]

/-- The ranks for the phases 0 to 15. -/
def ranks : List (List Nat) := [
  ranks0, ranks1, ranks2, ranks3, ranks4, ranks5, ranks6, ranks7,
  ranks8, ranks9, ranks10, ranks11, ranks12, ranks13, ranks14, ranks15]

end DistinctCount.ColumnOrder
