/-!
Contract: the ranges of numbers that fit into words of fixed width.

Owns: the bounds of words of 32 and 64 bits.
Does not own: what happens at a bound; each use has a rule of its own.
-/

namespace LoginGate.Word

def minSigned32 : Int := -2147483648

def maxSigned32 : Int := 2147483647

def minSigned64 : Int := -9223372036854775808

def maxSigned64 : Int := 9223372036854775807

def maxUnsigned64 : Nat := 18446744073709551615

end LoginGate.Word
