import Mathlib.Tactic.Common

/-!
# Codes and flags

The exit codes of `common_defines.h`, the flags of `linux/if_link.h` and the kernel's error
numbers as the modelled functions return them.
-/

namespace SyncookieXdp

def exitOk : Nat := 0

def exitFail : Nat := 1

def exitFailOption : Nat := 2

def exitFailXdp : Nat := 30

def exitFailBpf : Nat := 40

-- -ENOENT, -E2BIG, -EEXIST, -EINVAL, -ENOSPC and -ENAMETOOLONG
def errNoEntry : Int := -2

def errTooBig : Int := -7

def errExist : Int := -17

def errInval : Int := -22

def errNoSpace : Int := -28

def errNameTooLong : Int := -36

def xdpFlagsUpdateIfNoexist : BitVec 32 := 1 <<< 0

def xdpFlagsSkbMode : BitVec 32 := 1 <<< 1

def xdpFlagsDrvMode : BitVec 32 := 1 <<< 2

def xdpFlagsHwMode : BitVec 32 := 1 <<< 3

def xdpFlagsModes : BitVec 32 := xdpFlagsSkbMode ||| xdpFlagsDrvMode ||| xdpFlagsHwMode

def xdpFlagsMask : BitVec 32 := xdpFlagsUpdateIfNoexist ||| xdpFlagsModes

-- of net/if.h
def ifNamesize : Nat := 16

end SyncookieXdp
