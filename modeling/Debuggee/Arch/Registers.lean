import Debuggee.Arch.Name
import Debuggee.RegisterSet

namespace Debuggee

namespace FlagLayout

def x86 : FlagLayout := [
  ⟨"CF", 0, 1⟩, ⟨"PF", 2, 1⟩, ⟨"AF", 4, 1⟩, ⟨"ZF", 6, 1⟩, ⟨"SF", 7, 1⟩, ⟨"IF", 9, 1⟩,
  ⟨"DF", 10, 1⟩, ⟨"OF", 11, 1⟩]

def arm : FlagLayout := [
  ⟨"N", 31, 1⟩, ⟨"Z", 30, 1⟩, ⟨"C", 29, 1⟩, ⟨"V", 28, 1⟩, ⟨"Q", 27, 1⟩, ⟨"J", 24, 1⟩,
  ⟨"T", 5, 1⟩, ⟨"E", 9, 1⟩, ⟨"A", 8, 1⟩, ⟨"I", 7, 1⟩, ⟨"F", 6, 1⟩]

def armcm : FlagLayout := [
  ⟨"N", 31, 1⟩, ⟨"Z", 30, 1⟩, ⟨"C", 29, 1⟩, ⟨"V", 28, 1⟩, ⟨"Q", 27, 1⟩, ⟨"T", 24, 1⟩]

def aarch64 : FlagLayout := [
  ⟨"N", 31, 1⟩, ⟨"Z", 30, 1⟩, ⟨"C", 29, 1⟩, ⟨"V", 28, 1⟩, ⟨"Q", 27, 1⟩, ⟨"PAN", 22, 1⟩,
  ⟨"IL", 20, 1⟩, ⟨"D", 9, 1⟩, ⟨"A", 8, 1⟩, ⟨"I", 7, 1⟩, ⟨"F", 6, 1⟩, ⟨"EL", 2, 2⟩, ⟨"SP", 0, 1⟩]

def aarch64Float : FlagLayout := [
  ⟨"QC", 27, 1⟩, ⟨"IDC", 7, 1⟩, ⟨"IXC", 4, 1⟩, ⟨"UFC", 3, 1⟩, ⟨"OFC", 2, 1⟩, ⟨"DZC", 1, 1⟩,
  ⟨"IOC", 0, 1⟩]

end FlagLayout

namespace RegisterSet

def x8664 : RegisterSet where
  pc := "rip"
  stack := "rsp"
  frame := some "rbp"
  returnAddresses := []
  flags := [("eflags", FlagLayout.x86)]
  extraFlags := []
  general := ["rax", "rbx", "rcx", "rdx", "rdi", "rsi", "r8", "r9", "r10", "r11", "r12", "r13",
    "r14", "r15"]
  misc := ["cs", "ss", "ds", "es", "fs", "gs", "fs_base", "gs_base", "ax", "ah", "al", "bx", "bh",
    "bl", "cx", "ch", "cl", "dx", "dh", "dl", "dil", "sil", "spl", "bpl", "di", "si", "bp", "sp",
    "ip"]
  arguments := ["rdi", "rsi", "rdx", "rcx", "r8", "r9"]
  result := some "rax"

def i386 : RegisterSet where
  pc := "eip"
  stack := "esp"
  frame := some "ebp"
  returnAddresses := []
  flags := [("eflags", FlagLayout.x86)]
  extraFlags := []
  general := ["eax", "ebx", "ecx", "edx", "edi", "esi"]
  misc := ["cs", "ss", "ds", "es", "fs", "gs", "fsbase", "gsbase", "ax", "ah", "al", "bx", "bh",
    "bl", "cx", "ch", "cl", "dx", "dh", "dl", "di", "si", "bp", "sp", "ip"]
  arguments := []
  result := some "eax"

def i8086 : RegisterSet where
  pc := "ip"
  stack := "sp"
  frame := some "bp"
  returnAddresses := []
  flags := [("flags", FlagLayout.x86)]
  extraFlags := []
  general := ["ax", "bx", "cx", "dx", "si", "di"]
  misc := ["cs", "ss", "ds", "es"]
  arguments := []
  result := some "ax"

def arm : RegisterSet where
  pc := "pc"
  stack := "sp"
  frame := none
  returnAddresses := ["lr"]
  flags := [("cpsr", FlagLayout.arm)]
  extraFlags := []
  general := ["r0", "r1", "r2", "r3", "r4", "r5", "r6", "r7", "r8", "r9", "r10", "r11", "r12"]
  misc := []
  arguments := ["r0", "r1", "r2", "r3"]
  result := some "r0"

def armcm : RegisterSet where
  pc := "pc"
  stack := "sp"
  frame := none
  returnAddresses := ["lr"]
  flags := [("xpsr", FlagLayout.armcm)]
  extraFlags := []
  general := ["r0", "r1", "r2", "r3", "r4", "r5", "r6", "r7", "r8", "r9", "r10", "r11", "r12"]
  misc := ["msp", "psp", "primask", "basepri", "faultmask", "control"]
  arguments := ["r0", "r1", "r2", "r3"]
  result := some "r0"

def aarch64 : RegisterSet where
  pc := "pc"
  stack := "sp"
  frame := some "x29"
  returnAddresses := ["lr"]
  flags := [("cpsr", FlagLayout.aarch64)]
  extraFlags := [("fpsr", FlagLayout.aarch64Float)]
  general := ["x0", "x1", "x2", "x3", "x4", "x5", "x6", "x7", "x8", "x9", "x10", "x11", "x12",
    "x13", "x14", "x15", "x16", "x17", "x18", "x19", "x20", "x21", "x22", "x23", "x24", "x25",
    "x26", "x27", "x28"]
  misc := ["fpcr", "tpidr_el0"]
  arguments := ["x0", "x1", "x2", "x3", "x4", "x5", "x6", "x7"]
  result := some "x0"

def mips : RegisterSet where
  pc := "pc"
  stack := "sp"
  frame := some "fp"
  returnAddresses := ["ra"]
  flags := []
  extraFlags := []
  general := ["v0", "v1", "a0", "a1", "a2", "a3", "t0", "t1", "t2", "t3", "t4", "t5", "t6", "t7",
    "t8", "t9", "s0", "s1", "s2", "s3", "s4", "s5", "s6", "s7"]
  misc := ["gp", "at", "hi", "lo"]
  arguments := ["a0", "a1", "a2", "a3"]
  result := some "v0"

def powerpc : RegisterSet where
  pc := "pc"
  stack := "r1"
  frame := none
  returnAddresses := ["lr"]
  flags := [("msr", []), ("xer", [])]
  extraFlags := []
  general := ["r0", "r1", "r2", "r3", "r4", "r5", "r6", "r7", "r8", "r9", "r10", "r11", "r12",
    "r13", "r14", "r15", "r16", "r17", "r18", "r19", "r20", "r21", "r22", "r23", "r24", "r25",
    "r26", "r27", "r28", "r29", "r30", "r31"]
  misc := ["cr", "lr", "ctr"]
  arguments := ["r3", "r4", "r5", "r6", "r7", "r8", "r9", "r10"]
  result := some "r3"

def sparc : RegisterSet where
  pc := "pc"
  stack := "sp"
  frame := some "fp"
  returnAddresses := ["i7"]
  flags := [("psr", [])]
  extraFlags := []
  general := ["g1", "g2", "g3", "g4", "g5", "g6", "g7", "o0", "o1", "o2", "o3", "o4", "o5", "o7",
    "l0", "l1", "l2", "l3", "l4", "l5", "l6", "l7", "i0", "i1", "i2", "i3", "i4", "i5"]
  misc := ["g0", "npc", "y"]
  arguments := ["o0", "o1", "o2", "o3", "o4", "o5"]
  result := some "o0"

def riscv : RegisterSet where
  pc := "pc"
  stack := "sp"
  frame := none
  returnAddresses := ["ra"]
  flags := []
  extraFlags := []
  general := ["gp", "tp", "t0", "t1", "t2", "s0", "s1", "a0", "a1", "a2", "a3", "a4", "a5", "a6",
    "a7", "s2", "s3", "s4", "s5", "s6", "s7", "s8", "s9", "s10", "s11", "t3", "t4", "t5", "t6"]
  misc := []
  arguments := ["a0", "a1", "a2", "a3", "a4", "a5", "a6", "a7"]
  result := some "a0"

end RegisterSet

def ArchName.registers : ArchName → RegisterSet
  | .x8664 => RegisterSet.x8664
  | .i386 => RegisterSet.i386
  | .i8086 => RegisterSet.i8086
  | .aarch64 => RegisterSet.aarch64
  | .mips => RegisterSet.mips
  | .powerpc => RegisterSet.powerpc
  | .sparc => RegisterSet.sparc
  | .arm => RegisterSet.arm
  | .armcm => RegisterSet.armcm
  | .riscv32 | .riscv64 | .riscv => RegisterSet.riscv

end Debuggee
