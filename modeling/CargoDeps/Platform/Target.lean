namespace CargoDeps.Platform

/-!
# Built-in targets

The compilation targets that are known by their triple, each with the properties that a platform
condition can ask for.
-/

/-- A family of operating systems. -/
inductive Family
  | unix
  | wasm
  | windows
deriving DecidableEq, Repr

/-- The name of a family in conditions. -/
def Family.name : Family → String
  | unix => "unix"
  | wasm => "wasm"
  | windows => "windows"

/-- The order of the bytes in a word. -/
inductive Endian
  | little
  | big
deriving DecidableEq, Repr

/-- The name of a byte order in conditions. -/
def Endian.name : Endian → String
  | little => "little"
  | big => "big"

/-- A compilation target.  An empty `env` means that the target has no environment of its own. -/
structure Target where
  triple : String
  arch : String
  vendor : String
  os : String
  env : String
  families : List Family
  endian : Endian
  pointerWidth : Nat
deriving DecidableEq, Repr

namespace Target

/-- The known targets, by ascending triple. -/
def builtin : List Target := [
    ⟨"aarch64-apple-darwin", "aarch64", "apple", "macos", "", [.unix], .little, 64⟩,
    ⟨"aarch64-apple-ios", "aarch64", "apple", "ios", "", [.unix], .little, 64⟩,
    ⟨"aarch64-linux-android", "aarch64", "unknown", "android", "", [.unix], .little, 64⟩,
    ⟨"aarch64-pc-windows-msvc", "aarch64", "pc", "windows", "msvc", [.windows], .little, 64⟩,
    ⟨"aarch64-unknown-freebsd", "aarch64", "unknown", "freebsd", "", [.unix], .little, 64⟩,
    ⟨"aarch64-unknown-fuchsia", "aarch64", "unknown", "fuchsia", "", [.unix], .little, 64⟩,
    ⟨"aarch64-unknown-linux-gnu", "aarch64", "unknown", "linux", "gnu", [.unix], .little, 64⟩,
    ⟨"aarch64-unknown-linux-musl", "aarch64", "unknown", "linux", "musl", [.unix], .little, 64⟩,
    ⟨"aarch64-unknown-none", "aarch64", "unknown", "none", "", [], .little, 64⟩,
    ⟨"arm-linux-androideabi", "arm", "unknown", "android", "", [.unix], .little, 32⟩,
    ⟨"arm-unknown-linux-gnueabi", "arm", "unknown", "linux", "gnu", [.unix], .little, 32⟩,
    ⟨"arm-unknown-linux-gnueabihf", "arm", "unknown", "linux", "gnu", [.unix], .little, 32⟩,
    ⟨"arm-unknown-linux-musleabihf", "arm", "unknown", "linux", "musl", [.unix], .little, 32⟩,
    ⟨"armv7-linux-androideabi", "arm", "unknown", "android", "", [.unix], .little, 32⟩,
    ⟨"armv7-unknown-linux-gnueabihf", "arm", "unknown", "linux", "gnu", [.unix], .little, 32⟩,
    ⟨"armv7-unknown-linux-musleabihf", "arm", "unknown", "linux", "musl", [.unix], .little, 32⟩,
    ⟨"i586-pc-windows-msvc", "x86", "pc", "windows", "msvc", [.windows], .little, 32⟩,
    ⟨"i586-unknown-linux-gnu", "x86", "unknown", "linux", "gnu", [.unix], .little, 32⟩,
    ⟨"i686-apple-darwin", "x86", "apple", "macos", "", [.unix], .little, 32⟩,
    ⟨"i686-linux-android", "x86", "unknown", "android", "", [.unix], .little, 32⟩,
    ⟨"i686-pc-windows-gnu", "x86", "pc", "windows", "gnu", [.windows], .little, 32⟩,
    ⟨"i686-pc-windows-msvc", "x86", "pc", "windows", "msvc", [.windows], .little, 32⟩,
    ⟨"i686-unknown-freebsd", "x86", "unknown", "freebsd", "", [.unix], .little, 32⟩,
    ⟨"i686-unknown-linux-gnu", "x86", "unknown", "linux", "gnu", [.unix], .little, 32⟩,
    ⟨"i686-unknown-linux-musl", "x86", "unknown", "linux", "musl", [.unix], .little, 32⟩,
    ⟨"mips-unknown-linux-gnu", "mips", "unknown", "linux", "gnu", [.unix], .big, 32⟩,
    ⟨"mips64-unknown-linux-gnuabi64", "mips64", "unknown", "linux", "gnu", [.unix], .big, 64⟩,
    ⟨"mips64el-unknown-linux-gnuabi64", "mips64", "unknown", "linux", "gnu", [.unix], .little, 64⟩,
    ⟨"mipsel-unknown-linux-gnu", "mips", "unknown", "linux", "gnu", [.unix], .little, 32⟩,
    ⟨"powerpc-unknown-linux-gnu", "powerpc", "unknown", "linux", "gnu", [.unix], .big, 32⟩,
    ⟨"powerpc64-unknown-linux-gnu", "powerpc64", "unknown", "linux", "gnu", [.unix], .big, 64⟩,
    ⟨"powerpc64le-unknown-linux-gnu", "powerpc64", "unknown", "linux", "gnu", [.unix], .little, 64⟩,
    ⟨"riscv32imac-unknown-none-elf", "riscv32", "unknown", "none", "", [], .little, 32⟩,
    ⟨"riscv64gc-unknown-linux-gnu", "riscv64", "unknown", "linux", "gnu", [.unix], .little, 64⟩,
    ⟨"s390x-unknown-linux-gnu", "s390x", "unknown", "linux", "gnu", [.unix], .big, 64⟩,
    ⟨"sparc64-unknown-linux-gnu", "sparc64", "unknown", "linux", "gnu", [.unix], .big, 64⟩,
    ⟨"sparcv9-sun-solaris", "sparc64", "sun", "solaris", "", [.unix], .big, 64⟩,
    ⟨"thumbv6m-none-eabi", "arm", "unknown", "none", "", [], .little, 32⟩,
    ⟨"thumbv7em-none-eabi", "arm", "unknown", "none", "", [], .little, 32⟩,
    ⟨"thumbv7em-none-eabihf", "arm", "unknown", "none", "", [], .little, 32⟩,
    ⟨"thumbv7m-none-eabi", "arm", "unknown", "none", "", [], .little, 32⟩,
    ⟨"wasm32-unknown-emscripten", "wasm32", "unknown", "emscripten", "", [.unix, .wasm], .little, 32⟩,
    ⟨"wasm32-unknown-unknown", "wasm32", "unknown", "unknown", "", [.wasm], .little, 32⟩,
    ⟨"wasm32-wasi", "wasm32", "unknown", "wasi", "", [.wasm], .little, 32⟩,
    ⟨"x86_64-apple-darwin", "x86_64", "apple", "macos", "", [.unix], .little, 64⟩,
    ⟨"x86_64-apple-ios", "x86_64", "apple", "ios", "", [.unix], .little, 64⟩,
    ⟨"x86_64-fortanix-unknown-sgx", "x86_64", "fortanix", "unknown", "sgx", [], .little, 64⟩,
    ⟨"x86_64-linux-android", "x86_64", "unknown", "android", "", [.unix], .little, 64⟩,
    ⟨"x86_64-pc-solaris", "x86_64", "pc", "solaris", "", [.unix], .little, 64⟩,
    ⟨"x86_64-pc-windows-gnu", "x86_64", "pc", "windows", "gnu", [.windows], .little, 64⟩,
    ⟨"x86_64-pc-windows-msvc", "x86_64", "pc", "windows", "msvc", [.windows], .little, 64⟩,
    ⟨"x86_64-sun-solaris", "x86_64", "sun", "solaris", "", [.unix], .little, 64⟩,
    ⟨"x86_64-unknown-dragonfly", "x86_64", "unknown", "dragonfly", "", [.unix], .little, 64⟩,
    ⟨"x86_64-unknown-freebsd", "x86_64", "unknown", "freebsd", "", [.unix], .little, 64⟩,
    ⟨"x86_64-unknown-fuchsia", "x86_64", "unknown", "fuchsia", "", [.unix], .little, 64⟩,
    ⟨"x86_64-unknown-illumos", "x86_64", "unknown", "illumos", "", [.unix], .little, 64⟩,
    ⟨"x86_64-unknown-linux-gnu", "x86_64", "unknown", "linux", "gnu", [.unix], .little, 64⟩,
    ⟨"x86_64-unknown-linux-gnux32", "x86_64", "unknown", "linux", "gnu", [.unix], .little, 32⟩,
    ⟨"x86_64-unknown-linux-musl", "x86_64", "unknown", "linux", "musl", [.unix], .little, 64⟩,
    ⟨"x86_64-unknown-netbsd", "x86_64", "unknown", "netbsd", "", [.unix], .little, 64⟩,
    ⟨"x86_64-unknown-none", "x86_64", "unknown", "none", "", [], .little, 64⟩,
    ⟨"x86_64-unknown-openbsd", "x86_64", "unknown", "openbsd", "", [.unix], .little, 64⟩,
    ⟨"x86_64-unknown-redox", "x86_64", "unknown", "redox", "relibc", [.unix], .little, 64⟩,
    ⟨"x86_64-unknown-uefi", "x86_64", "unknown", "uefi", "", [], .little, 64⟩]

/-- The known target with a triple. -/
def ofTriple? (triple : String) : Option Target :=
  builtin.find? fun target => target.triple = triple

/-- A target that was looked up has the triple that it was looked up by. -/
theorem triple_of_ofTriple? {triple : String} {target : Target}
    (found : ofTriple? triple = some target) : target.triple = triple := by
  simpa using List.find?_some found

/-- A known target is found under its own triple. -/
theorem ofTriple?_triple : ∀ target ∈ builtin, ofTriple? target.triple = some target := by
  decide +kernel

end Target

end CargoDeps.Platform
