import ClangHost.Engine.Linking.CLibrary
import ClangHost.Text.Utf8

/-!
The libraries of the system: the names of their files, the directory that those are in, and what
each of them offers.
-/
namespace ClangHost.SystemLibrary

def bare (versions : List String) : List (String × List String) := versions.map (·, [])

def support : Exports :=
  { versions := [
      ("GCC_3.0", words [
        "_Unwind_DeleteException _Unwind_Find_FDE _Unwind_ForcedUnwind _Unwind_GetDataRelBase",
        "_Unwind_GetGR _Unwind_GetIP _Unwind_GetLanguageSpecificData _Unwind_GetRegionStart",
        "_Unwind_GetTextRelBase _Unwind_RaiseException _Unwind_Resume _Unwind_SetGR _Unwind_SetIP",
        "__absvdi2 __absvsi2 __addvdi3 __addvsi3 __ashlti3 __ashrti3 __clear_cache __cmpti2",
        "__deregister_frame __deregister_frame_info __deregister_frame_info_bases __divti3",
        "__extendsfdf2 __ffsdi2 __ffsti2 __fixdfti __fixsfti __fixunsdfdi __fixunsdfti",
        "__fixunssfdi __fixunssfti __fixunsxfdi __fixunsxfti __fixxfti __floattidf __floattisf",
        "__floattixf __gttf2 __lshrti3 __lttf2 __modti3 __multi3 __mulvdi3 __mulvsi3 __negti2",
        "__negvdi2 __negvsi2 __netf2 __register_frame __register_frame_info",
        "__register_frame_info_bases __register_frame_info_table",
        "__register_frame_info_table_bases __register_frame_table __subvdi3 __subvsi3",
        "__truncdfsf2 __ucmpti2 __udivmodti4 __udivti3 __umodti3"]),
      ("GCC_3.3", words [
        "_Unwind_Backtrace _Unwind_FindEnclosingFunction _Unwind_GetCFA",
        "_Unwind_Resume_or_Rethrow"]),
      ("GCC_3.3.1", words ["__gcc_personality_v0"]),
      ("GCC_3.4", words [
        "__clzdi2 __clzti2 __ctzdi2 __ctzti2 __paritydi2 __parityti2 __popcountdi2 __popcountti2"]),
      ("GCC_3.4.2", words ["__enable_execute_stack"]),
      ("GCC_3.4.4", words ["__absvti2 __addvti3 __mulvti3 __negvti2 __subvti3"]),
      ("GCC_4.0.0", words [
        "__divdc3 __divsc3 __divxc3 __muldc3 __mulsc3 __mulxc3 __powidf2 __powisf2 __powixf2"]),
      ("GCC_4.2.0", words ["_Unwind_GetIPInfo __floatuntidf __floatuntisf __floatuntixf"]),
      ("GCC_4.3.0", words [
        "__addtf3 __bswapdi2 __bswapsi2 __divtc3 __divtf3 __emutls_get_address",
        "__emutls_register_common __eqtf2 __extenddftf2 __extendsftf2 __extendxftf2 __fixtfdi",
        "__fixtfsi __fixtfti __fixunstfdi __fixunstfsi __fixunstfti __floatditf __floatsitf",
        "__floattitf __floatunditf __floatunsitf __floatuntitf __getf2 __gttf2 __letf2 __lttf2",
        "__multc3 __multf3 __negtf2 __netf2 __powitf2 __subtf3 __trunctfdf2 __trunctfsf2",
        "__trunctfxf2 __unordtf2"]),
      ("GCC_4.7.0", words ["__clrsbdi2 __clrsbti2"]),
      ("GCC_4.8.0", []),
      ("GCC_7.0.0", words ["__divmodti4"]),
      ("GCC_12.0.0", words [
        "__divhc3 __eqhf2 __extendhfdf2 __extendhfsf2 __extendhftf2 __extendhfxf2 __fixhfti",
        "__fixunshfti __floattihf __floatuntihf __mulhc3 __nehf2 __truncdfhf2 __truncsfhf2",
        "__trunctfhf2 __truncxfhf2"]),
      ("GCC_13.0.0", words [
        "__extendbfsf2 __floattibf __floatuntibf __truncdfbf2 __trunchfbf2 __truncsfbf2",
        "__trunctfbf2 __truncxfbf2"]),
      ("GCC_14.0.0", words [
        "__divmodbitint4 __fixdfbitint __fixsfbitint __fixtfbitint __fixxfbitint __floatbitintbf",
        "__floatbitintdf __floatbitinthf __floatbitintsf __floatbitinttf __floatbitintxf",
        "__gcc_nested_func_ptr_created __gcc_nested_func_ptr_deleted __hardcfr_check __mulbitint3",
        "__strub_enter __strub_leave __strub_update"])] }

def compression : Exports :=
  { names := words [
      "adler32 compress compress2 crc32 deflate deflateCopy deflateEnd deflateInit2_ deflateInit_",
      "deflateParams deflateReset deflateSetDictionary get_crc_table gzclose gzdopen gzeof",
      "gzerror gzflush gzgetc gzgets gzopen gzprintf gzputc gzputs gzread gzrewind gzseek",
      "gzsetparams gztell gzwrite inflate inflateEnd inflateInit2_ inflateInit_ inflateReset",
      "inflateSetDictionary inflateSync inflateSyncPoint uncompress zError zlibVersion"]
    versions := [
      ("ZLIB_1.2.0", words [
        "compressBound deflateBound inflateBack inflateBackEnd inflateBackInit_ inflateCopy"]),
      ("ZLIB_1.2.0.2", words ["gzclearerr gzungetc zlibCompileFlags"]),
      ("ZLIB_1.2.0.8", words ["deflatePrime"]),
      ("ZLIB_1.2.2", words ["adler32_combine crc32_combine deflateSetHeader inflateGetHeader"]),
      ("ZLIB_1.2.2.3", words ["deflateTune gzdirect"]),
      ("ZLIB_1.2.2.4", words ["inflatePrime"]),
      ("ZLIB_1.2.3.3", words [
        "adler32_combine64 crc32_combine64 gzopen64 gzseek64 gztell64 inflateUndermine"]),
      ("ZLIB_1.2.3.4", words ["inflateMark inflateReset2"]),
      ("ZLIB_1.2.3.5", words ["gzbuffer gzclose_r gzclose_w gzoffset64 gzoffset"]),
      ("ZLIB_1.2.5.1", words ["deflatePending"]),
      ("ZLIB_1.2.5.2", words ["deflateResetKeep gzgetc_ inflateResetKeep"]),
      ("ZLIB_1.2.7.1", words ["gzvprintf inflateGetDictionary"]),
      ("ZLIB_1.2.9", words [
        "adler32_z crc32_z deflateGetDictionary gzfread gzfwrite inflateCodesUsed inflateValidate",
        "uncompress2"]),
      ("ZLIB_1.2.12", words ["crc32_combine_gen64 crc32_combine_gen crc32_combine_op"])] }

def cxx : Exports :=
  { versions := bare
      (("GLIBCXX_3.4" :: (List.range 33).map fun n => "GLIBCXX_3.4." ++ toString (n + 1))
        ++ "CXXABI_1.3" :: (List.range 15).map (fun n => "CXXABI_1.3." ++ toString (n + 1))
        ++ ["CXXABI_TM_1", "CXXABI_FLOAT128"]) }

def loader : Exports :=
  { versions := [
      ("GLIBC_2.2.5", words ["__libc_stack_end _dl_mcount _r_debug"]),
      ("GLIBC_2.3", ["__tls_get_addr"]),
      ("GLIBC_2.4", []),
      ("GLIBC_2.34", []),
      ("GLIBC_2.35", words ["__rseq_flags __rseq_offset __rseq_size"]),
      ("GLIBC_PRIVATE", [])] }

def systemPage : Exports :=
  { versions := [("LINUX_2.6", words ["__vdso_clock_getres __vdso_clock_gettime __vdso_getcpu",
      "__vdso_gettimeofday __vdso_sgx_enter_enclave __vdso_time clock_getres clock_gettime getcpu",
      "gettimeofday time"])] }

def all : List (String × Exports) :=
  let opening := ["GLIBC_2.2.5", "GLIBC_2.3.3", "GLIBC_2.3.4"]
  [("libc.so.6", cLibrary),
    ("libm.so.6", mathematics),
    ("libdl.so.2", { versions := bare opening }),
    ("libpthread.so.0", { versions := bare (opening ++ ["GLIBC_2.2.6", "GLIBC_2.3.2", "GLIBC_2.4",
      "GLIBC_2.11", "GLIBC_2.12", "GLIBC_2.18", "GLIBC_2.28", "GLIBC_2.30", "GLIBC_2.31"]) }),
    ("librt.so.1", { versions := bare (opening ++ ["GLIBC_2.4", "GLIBC_2.7"]) }),
    ("libgcc_s.so.1", support),
    ("libstdc++.so.6", cxx),
    ("libz.so.1", compression),
    ("ld-linux-x86-64.so.2", loader)]

def directory : Bytes := Utf8.encode "/lib/x86_64-linux-gnu".toList

end ClangHost.SystemLibrary
